import TieredTerms.Proofs.Duration.Projected
import TieredTerms.Proofs.Duration.Unsigned
import TieredTerms.Proofs.Outcome

/-!
# Durations on one side of zero

The parts of a duration that is read from a text have one sign, which stands in front of the text.
So the sign of its projection is the sign of its written form, unless years or months are so small
that their projection vanishes, and then they are written with an exponent.

* `Duration.OnSide` is the property, `Duration.onSide_of_parse?` is about texts.
* `Duration.OnSide.isNegative`: what is written with a sign and without exponents is below zero.
* `Duration.hasMinus_of_parse?`: a text that gives a duration which is not below zero gives one that
  is written without a sign.
-/

namespace TieredTerms

/-! ## Clock durations -/

namespace Clock

private theorem seconds_eq (time : Clock) :
    time.seconds = Binary64.ofMagnitude (decide (time.micros < 0)) (|time.micros| / 1000000) := by
  have hvalue : mkRat time.micros microsPerSecond = (time.micros : Rat) / 1000000 := by
    rw [Rat.mkRat_eq_div, microsPerSecond]
    norm_num
  have hsign : ((time.micros : Rat) / 1000000 < 0) = (time.micros < 0) := by
    rw [div_lt_iff₀ (by norm_num), zero_mul]
    exact_mod_cast rfl
  rw [seconds, hvalue, Binary64.ofRat, Binary64.ratAbs_eq, abs_div,
    abs_of_pos (by norm_num : (0 : Rat) < 1000000)]
  simp only [hsign]
  push_cast
  rfl

theorem onSide_seconds {negative : Bool} {time : Clock}
    (h : if negative then time.micros ≤ 0 else 0 ≤ time.micros) : time.seconds.OnSide negative := by
  rw [seconds_eq]
  rcases eq_or_ne time.micros 0 with hzero | hne
  · rw [hzero, Binary64.ofMagnitude, if_pos (by norm_num)]
    exact .inr rfl
  · have hsign : decide (time.micros < 0) = negative := by
      cases negative with
      | true =>
        rw [if_pos rfl] at h
        exact decide_eq_true (by omega)
      | false =>
        rw [if_neg (by simp)] at h
        exact decide_eq_false (by omega)
    rw [hsign]
    exact Binary64.onSide_ofMagnitude negative _

/-- A microsecond is away from zero. -/
theorem beyond_seconds {time : Clock} (h : time.micros < 0) : time.seconds.Beyond true (-24) := by
  rw [seconds_eq, decide_eq_true h]
  apply Binary64.beyond_ofMagnitude true _ (by decide)
  have hone : (1 : Rat) ≤ |time.micros| := by
    exact_mod_cast Int.one_le_abs h.ne
  rw [le_div_iff₀ (by norm_num)]
  exact le_trans (by norm_num) hone

end Clock

namespace Duration

/-- Every part has the given sign or is zero. -/
structure OnSide (negative : Bool) (d : Duration) : Prop where
  years : d.years.negative = negative ∨ d.years.isZero = true
  months : d.months.negative = negative ∨ d.months.isZero = true
  time : if negative then d.time.micros ≤ 0 else 0 ≤ d.time.micros

/-- A duration without negative parts is written without a sign. -/
theorem OnSide.hasMinus {d : Duration} (h : d.OnSide false) : d.hasMinus = false := by
  have hpart {n : Decimal} (hn : n.negative = false ∨ n.isZero = true) : n.isNegative = false := by
    rw [Decimal.isNegative]
    rcases hn with hn | hn
    · rw [hn, Bool.false_and]
    · rw [hn, Bool.not_true, Bool.and_false]
  have htime : 0 ≤ d.time.micros := h.time
  rw [hasMinus_eq, hpart h.years, hpart h.months, decide_eq_false (not_lt.mpr htime)]
  rfl

/-! ## The sign of the projection -/

/-- The projection of a duration is on its side. -/
theorem OnSide.seconds {negative : Bool} {d : Duration} (h : d.OnSide negative) :
    d.seconds.OnSide negative := by
  have htime := Clock.onSide_seconds h.time
  cases d with
  | clock time => exact htime
  | calendar years months time =>
    have hyears := (Decimal.onSide_toBinary64 h.years).mul_ofInt (n := 365) (by decide) (by decide)
    have hmonths := (Decimal.onSide_toBinary64 h.months).mul_ofInt (n := 30) (by decide) (by decide)
    exact ((hyears.add hmonths).mul_ofInt (n := 86400) (by decide) (by decide)).add htime

/-- A duration without negative parts is not below zero. -/
theorem OnSide.isNegative_eq_false {d : Duration} (h : d.OnSide false) : d.isNegative = false :=
  h.seconds.not_lt_zero

/-- Years or months below zero that are written without an exponent are away from zero. -/
private theorem beyond_part {n : Decimal} {unit : Char} (h : 'E' ∉ decimalUnitText n unit)
    (hneg : n.isNegative = true) : n.toBinary64.Beyond true (-24) := by
  rw [Decimal.isNegative, Bool.and_eq_true, Bool.not_eq_true'] at hneg
  have htext := Decimal.not_mem_abs_toText h hneg.2
  have hbeyond := Decimal.beyond_toBinary64 hneg.2 (Decimal.leading_of_positional htext hneg.2)
  rwa [hneg.1] at hbeyond

/-- A duration without positive parts that is written with a sign, but without exponents, is below
zero. -/
theorem OnSide.isNegative {d : Duration} (h : d.OnSide true) (hplain : 'E' ∉ d.formatChars)
    (hminus : d.hasMinus = true) : d.isNegative = true := by
  have htime := Clock.onSide_seconds h.time
  obtain ⟨hyearsText, hmonthsText⟩ := not_mem_parts hplain
  apply Binary64.Beyond.lt_zero (k := -24)
  cases d with
  | clock time => exact Clock.beyond_seconds (of_decide_eq_true hminus)
  | calendar years months time =>
    have hlow : Binary64.minExponent ≤ -24 := by decide
    have hyears := (Decimal.onSide_toBinary64 h.years).mul_ofInt (n := 365) (by decide) (by decide)
    have hmonths := (Decimal.onSide_toBinary64 h.months).mul_ofInt (n := 30) (by decide) (by decide)
    have hdays := (hyears.add hmonths).mul_ofInt (n := 86400) (by decide) (by decide)
    simp only [Duration.hasMinus, Bool.or_eq_true, decide_eq_true_eq] at hminus
    -- One part is away from zero, the others are on its side.
    rcases hminus with (hneg | hneg) | hneg
    · have hpart := (beyond_part hyearsText hneg).mul_ofInt hlow (n := 365) (by decide) (by decide)
      exact ((hpart.add hlow hmonths).mul_ofInt hlow (n := 86400) (by decide) (by decide)).add hlow
        htime
    · have hpart := (beyond_part hmonthsText hneg).mul_ofInt hlow (n := 30) (by decide) (by decide)
      have hsum := hpart.add hlow hyears
      rw [Binary64.add_comm] at hsum
      exact (hsum.mul_ofInt hlow (n := 86400) (by decide) (by decide)).add hlow
        htime
    · have hsum := (Clock.beyond_seconds hneg).add hlow hdays
      rw [Binary64.add_comm] at hsum
      exact hsum

end Duration

/-! ## Clock units without signs -/

private theorem value_nonneg {x : Binary64} (h : x.OnSide false) : 0 ≤ x.toRat?.getD 0 := by
  cases x with
  | nan => exact h.elim
  | infinite => exact le_rfl
  | finite =>
    obtain ⟨a, ha, hnonneg⟩ := h.value
    rw [ha, Option.getD_some]
    simpa using hnonneg

private theorem onSide_ofRat {q : Rat} (h : 0 ≤ q) : (Binary64.ofRat q).OnSide false := by
  rw [Binary64.ofRat, decide_eq_false (not_lt.mpr h)]
  exact Binary64.onSide_ofMagnitude false _

namespace MicroSum

/-- A sum of amounts without signs. -/
structure IsNonneg (sum : MicroSum) : Prop where
  whole : 0 ≤ sum.whole
  leftover : sum.leftover.OnSide false

/-- A double without a sign adds nothing below zero. -/
theorem IsNonneg.add {sum next : MicroSum} (h : sum.IsNonneg) {unit : Nat} {x : Binary64}
    (hx : x.OnSide false) (hadd : sum.add unit (.real x) = .ok next) : next.IsNonneg := by
  rw [MicroSum.add] at hadd
  obtain ⟨value, hvalue, hadd⟩ := bind_eq_ok.mp hadd
  have hnonneg : 0 ≤ value := by
    have hside := value_nonneg hx
    rwa [Binary64.finite?_eq_ok.mp hvalue, Option.getD_some] at hside
  have hwhole : Binary64.integerPart value = value.floor := if_neg (not_lt.mpr hnonneg)
  have hfloor : 0 ≤ value.floor := Rat.le_floor_iff.mpr (by exact_mod_cast hnonneg)
  have hcount : 0 ≤ value.floor * (unit : Int) := mul_nonneg hfloor (by positivity)
  have hfraction : 0 ≤ value - value.floor := sub_nonneg.mpr (Rat.floor_le value)
  dsimp only at hadd
  rw [hwhole] at hadd
  have hwholeSum := h.whole
  split_ifs at hadd
  · cases hadd
    exact ⟨by dsimp only; omega, h.leftover⟩
  · cases hadd
    have hscaled := value_nonneg (onSide_ofRat (q := unit * (value - value.floor)) (by positivity))
    generalize (Binary64.ofRat (unit * (value - value.floor))).toRat?.getD 0 = scaled at hscaled
    have hmicros : Binary64.integerPart scaled = scaled.floor := if_neg (not_lt.mpr hscaled)
    have hpart : 0 ≤ scaled.floor := Rat.le_floor_iff.mpr (by exact_mod_cast hscaled)
    rw [hmicros]
    exact ⟨by dsimp only; omega,
      h.leftover.add (onSide_ofRat (sub_nonneg.mpr (Rat.floor_le scaled)))⟩

theorem IsNonneg.round {sum : MicroSum} (h : sum.IsNonneg) : 0 ≤ sum.round := by
  apply le_nearestEven
  have hwhole : (0 : Rat) ≤ sum.whole := by exact_mod_cast h.whole
  have hleftover := value_nonneg h.leftover
  push_cast
  linarith

end MicroSum

namespace Designators

/-- The clock units of amounts without signs are not below zero. -/
theorem HasNoSigns.clock?_nonneg {d : Designators} (h : d.HasNoSigns) {time : Clock}
    (htime : d.clock? = some time) : 0 ≤ time.micros := by
  have hside {n : Decimal} (hn : n.negative = false) : n.toBinary64.OnSide false :=
    Decimal.onSide_toBinary64 (.inl hn)
  have hwhole (unit : Nat) :
      MicroSum.add MicroSum.zero unit (.whole 0) = .ok MicroSum.zero := by
    simp [MicroSum.add, MicroSum.zero]
  have hstart : MicroSum.zero.IsNonneg := ⟨le_rfl, .inl rfl⟩
  rw [clock?, Clock.ofParts] at htime
  split at htime
  · cases htime
  · next micros htotal =>
    split at htime
    · next clock hclock =>
      cases htime
      rw [Clock.ofMicros?_eq_some.mp hclock]
      simp only [ClockParts.total, List.foldlM_cons, List.foldlM_nil, hwhole, ok_bind] at htotal
      obtain ⟨sum, hsum, htotal⟩ := bind_eq_ok.mp htotal
      cases htotal
      obtain ⟨seconds, hseconds, hsum⟩ := bind_eq_ok.mp hsum
      obtain ⟨minutes, hminutes, hsum⟩ := bind_eq_ok.mp hsum
      obtain ⟨hours, hhours, hsum⟩ := bind_eq_ok.mp hsum
      obtain ⟨days, hdays, hsum⟩ := bind_eq_ok.mp hsum
      obtain ⟨weeks, hweeks, hsum⟩ := bind_eq_ok.mp hsum
      cases hsum
      exact (((((hstart.add (hside h.seconds) hseconds).add (hside h.minutes) hminutes).add
        (hside h.hours) hhours).add (hside h.days) hdays).add (hside h.weeks) hweeks).round
    · cases htime

end Designators

/-! ## Durations of texts -/

namespace Duration

/-- In the other direction, every part is taken from zero. -/
theorem neg?_parts {d e : Duration} (h : d.neg? = some e) :
    e.years = Decimal.ofInt 0 - d.years ∧ e.months = Decimal.ofInt 0 - d.months ∧
      e.time.micros = -d.time.micros := by
  have hzero : Decimal.ofInt 0 = Decimal.ofInt 0 - Decimal.ofInt 0 := by decide
  have hopposite {time opposite : Clock} (hclock : time.neg? = some opposite) :
      opposite.micros = -time.micros := by
    rwa [Clock.neg?, Clock.ofMicros?_eq_some] at hclock
  cases d with
  | clock time =>
    rw [Duration.neg?, Option.map_eq_map, Option.map_eq_some_iff] at h
    obtain ⟨opposite, hclock, rfl⟩ := h
    exact ⟨hzero, hzero, hopposite hclock⟩
  | calendar years months time =>
    simp only [Duration.neg?, Option.map_eq_map, Option.map_eq_some_iff] at h
    obtain ⟨opposite, hclock, rfl⟩ := h
    exact ⟨rfl, rfl, hopposite hclock⟩

/-- Without negative parts, the other direction has no positive ones. -/
private theorem OnSide.neg? {d e : Duration} (h : d.OnSide false) (hneg : d.neg? = some e) :
    e.OnSide true := by
  obtain ⟨hyears, hmonths, htime⟩ := neg?_parts hneg
  have hnonneg : 0 ≤ d.time.micros := h.time
  refine ⟨?_, ?_, ?_⟩
  · rw [hyears]
    exact Decimal.zero_sub_side h.years
  · rw [hmonths]
    exact Decimal.zero_sub_side h.months
  · change e.time.micros ≤ 0
    omega

/-- A duration in the designator form has no negative parts, or no positive ones. -/
private theorem onSide_toDuration? {designators : Designators} (hsigns : designators.HasNoSigns)
    {d : Duration} (h : designators.toDuration? = some d) : ∃ negative, d.OnSide negative := by
  rw [Designators.toDuration?, Option.bind_eq_bind, Option.bind_eq_some_iff] at h
  obtain ⟨time, hclock, h⟩ := h
  have htime := hsigns.clock?_nonneg hclock
  dsimp only at h
  generalize hduration : (if designators.years.isZero && designators.months.isZero then
    clock time else calendar designators.years designators.months time) = duration at h
  have hside : duration.OnSide false := by
    rw [← hduration]
    split_ifs
    · exact ⟨.inr rfl, .inr rfl, htime⟩
    · exact ⟨.inl hsigns.years, .inl hsigns.months, htime⟩
  split_ifs at h
  · exact ⟨true, hside.neg? h⟩
  · cases h
    exact ⟨false, hside⟩

/-- A duration in the date form has no negative parts. -/
private theorem onSide_ofDateTime? {cs : List Char} {d : Duration} (h : ofDateTime? cs = some d) :
    d.OnSide false := by
  have hsign (n : Nat) : (Decimal.ofInt n).negative = false := by simp [Decimal.ofInt]
  rw [ofDateTime?] at h
  split at h
  · simp only [Option.bind_eq_bind, Option.bind_eq_some_iff] at h
    obtain ⟨date, -, time, -, clock, hclock, hd⟩ := h
    cases hd
    refine ⟨.inl (hsign _), .inl (hsign _), ?_⟩
    change 0 ≤ clock.micros
    rw [Clock.ofMicros?_eq_some.mp hclock]
    positivity
  · cases h

/-- The parts of what a text stands for have one sign. -/
theorem onSide_of_parse? {text : String} {d : Duration} (h : parse? text = some d) :
    ∃ negative, d.OnSide negative := by
  rw [parse?] at h
  unfold ofChars? at h
  split at h
  · next designators hdesignators =>
    exact onSide_toDuration? (Designators.hasNoSigns_ofChars? hdesignators) h
  · split at h
    · exact ⟨false, onSide_ofDateTime? h⟩
    · cases h

/-- What a text stands for is written without a sign where it is not below zero and written without
exponents. -/
theorem hasMinus_of_parse? {text : String} {d : Duration} (h : parse? text = some d)
    (hvalid : d.isNegative = false) (hplain : 'E' ∉ d.formatChars) : d.hasMinus = false := by
  obtain ⟨negative, hside⟩ := onSide_of_parse? h
  cases negative with
  | false => exact hside.hasMinus
  | true =>
    by_contra hminus
    rw [Bool.not_eq_false] at hminus
    rw [hside.isNegative hplain hminus] at hvalid
    cases hvalid

end Duration

/-! ## The other direction of plain durations -/

namespace Decimal

variable {d : Decimal}

/-- A number that is not below zero has no sign, or is zero. -/
private theorem IsPlain.sign (h : d.IsPlain) : d.negative = false ∨ d.isZero = true := by
  have hnonneg := h.nonneg
  rw [Decimal.isNegative, Bool.and_eq_false_iff, Bool.not_eq_false'] at hnonneg
  exact hnonneg

/-- A plain number taken from zero is the number with a sign. -/
private theorem IsPlain.zero_sub (h : d.IsPlain) :
    Decimal.ofInt 0 - d = ⟨!d.isZero, d.coefficient, d.exponent⟩ := by
  rw [zero_sub_eq_round h.exponent_nonpos h.sign, Decimal.round, if_pos (h.excess_eq _)]

/-- The sign of years or months is not written with them. -/
private theorem IsPlain.decimalUnitText_zero_sub (h : d.IsPlain) (unit : Char) :
    decimalUnitText (Decimal.ofInt 0 - d) unit = decimalUnitText d unit := by
  rw [h.zero_sub]
  rfl

private theorem IsPlain.isNegative_zero_sub (h : d.IsPlain) :
    (Decimal.ofInt 0 - d).isNegative = !d.isZero := by
  rw [h.zero_sub]
  exact Bool.and_self _

end Decimal

namespace Duration

/-- A plain duration has no negative parts. -/
theorem IsPlain.onSide {d : Duration} (h : d.IsPlain) : d.OnSide false :=
  ⟨h.years.sign, h.months.sign, h.time⟩

/-- The other direction of a plain duration that is not zero is below zero. -/
theorem IsPlain.isNegative_neg? {d e : Duration} (h : d.IsPlain) (hneg : d.neg? = some e)
    (hne : d.years.isZero = false ∨ d.months.isZero = false ∨ d.time.micros ≠ 0) :
    e.isNegative = true := by
  obtain ⟨hyears, hmonths, htime⟩ := neg?_parts hneg
  have hnonneg := h.time
  have hunits : e.unitsText = d.unitsText := by
    rw [unitsText_eq, unitsText_eq, hyears, hmonths, htime, Int.natAbs_neg,
      h.years.decimalUnitText_zero_sub, h.months.decimalUnitText_zero_sub]
  have hminus : e.hasMinus = true := by
    rw [hasMinus_eq, hyears, hmonths, h.years.isNegative_zero_sub, h.months.isNegative_zero_sub]
    rcases hne with hne | hne | hne
    · rw [hne]
      rfl
    · rw [hne, Bool.not_false, Bool.or_true, Bool.true_or]
    · rw [decide_eq_true (by omega : e.time.micros < 0), Bool.or_true]
  have hplain := h.not_mem_formatChars
  refine (h.onSide.neg? hneg).isNegative ?_ hminus
  rw [formatChars, h.onSide.hasMinus, ← hunits] at hplain
  rw [formatChars, hminus]
  simpa using hplain

/-- A sign in front of a plain duration gives the other direction of what is read without it. -/
theorem ofChars?_signed {d : Duration} (h : d.IsPlain) :
    ofChars? ('-' :: d.formatChars) = d.reread.neg? := by
  obtain ⟨designators, hdesignators, hsign, hduration⟩ := designators_formatChars h
  obtain ⟨units, hformat, -⟩ := h.formatChars_eq
  have hbody (negative : Bool) (cs : List Char) : Designators.body? negative cs =
      (Designators.body? false cs).map fun amounts => { amounts with negative } := by
    simp only [Designators.body?]
    split
    · cases atTextEnd _ <;> rfl
    · cases atTextEnd _ <;> rfl
  have hsigned : Designators.ofChars? ('-' :: d.formatChars) =
      some { designators with negative := true } := by
    rw [hformat] at hdesignators ⊢
    change (if atTextEnd units = true then none else Designators.body? false units) = _
      at hdesignators
    change (if atTextEnd units = true then none else Designators.body? true units) = _
    split_ifs at hdesignators ⊢
    rw [hbody, hdesignators]
    rfl
  rw [Designators.toDuration?, Option.bind_eq_bind, Option.bind_eq_some_iff] at hduration
  obtain ⟨time, hclock, hduration⟩ := hduration
  rw [hsign, if_neg (by simp), Option.some.injEq] at hduration
  have hclock' : Designators.clock? { designators with negative := true } = some time := hclock
  unfold ofChars?
  rw [hsigned, ← hduration]
  dsimp only
  rw [Designators.toDuration?, hclock']
  rfl

end Duration

end TieredTerms
