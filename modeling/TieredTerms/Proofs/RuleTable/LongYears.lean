import TieredTerms.Proofs.Number.Precision
import TieredTerms.Proofs.RuleTable.Decoding

/-!
# Durations of many years

Reading keeps all digits of a number, and arithmetic does not: a number of years with more digits
than the largest exponent is read and compared, but its magnitude is too large to be written.  Such
years make a rule that is read from text and cannot be written.  A sign in front of the years is
arithmetic, too: it rounds a row of nines up to a power of ten, which has one digit more.

* `Decimal.isInRange_abs_pow` is a number that is too large.
* `RuleTable.parse_longForm` is a table of a rule of such years, for every number of digits from
  there on.
* `Duration.read_nines` and `Duration.shown?_pow` are a text of as many digits as readers take, and
  a duration that messages cannot show.
-/

namespace TieredTerms

/-! ## Long powers of ten -/

theorem decimalLength_pow (count : Nat) : decimalLength (10 ^ count) = count + 1 :=
  decimalLength_eq_succ le_rfl (Nat.pow_lt_pow_right (by decide) (Nat.lt_succ_self count))

/-- A long power of ten is cut to the precision of arithmetic. -/
theorem Decimal.round_pow {count : Nat} (h : precision ≤ count) :
    round ⟨false, 10 ^ count, 0⟩ = ⟨false, 10 ^ 27, (count - 27 : Nat)⟩ := by
  rw [precision] at h
  have hcut : excess ⟨false, 10 ^ count, 0⟩ = count - 27 := by
    rw [excess, decimalLength_pow]
    simp only [precision, smallestExponent, largestExponent]
    omega
  have hquotient : mkRat (10 ^ count : Nat) (10 ^ (count - 27)) = ((10 ^ 27 : Int) : Rat) := by
    have hpower : (10 : Rat) ^ count = 10 ^ 27 * 10 ^ (count - 27) := by
      rw [← pow_add]
      congr 1
      omega
    rw [Rat.mkRat_eq_div, div_eq_iff (by positivity)]
    exact_mod_cast hpower
  have hkept : (nearestEven (mkRat (10 ^ count : Nat) (10 ^ (count - 27)))).toNat = 10 ^ 27 := by
    rw [hquotient, nearestEven_intCast]
    rfl
  have hlong : count - 27 ≤ decimalLength (10 ^ count) := by
    rw [decimalLength_pow]
    omega
  rw [← hcut] at hkept hlong
  rw [round_of_kept (by omega) hlong hkept, if_neg (by decide), hcut, Int.zero_add]

/-- A power of ten beyond the largest exponent is too large for arithmetic. -/
theorem Decimal.isInRange_abs_pow {count : Nat} (h : largestExponent < count) :
    (⟨false, 10 ^ count, 0⟩ : Decimal).abs.isInRange = false := by
  rw [largestExponent] at h
  rw [abs, round_pow (by rw [precision]; omega), isInRange, decimalLength_pow 27, largestExponent]
  simp only [isZero, Bool.or_eq_false_iff, decide_eq_false_iff_not]
  exact ⟨by decide, by omega⟩

/-- Years of so many digits are read as a duration that is not negative. -/
theorem Duration.isNegative_years {count : Nat} (h : 400 ≤ count) :
    (Duration.calendar ⟨false, 10 ^ count, 0⟩ (Decimal.ofInt 0) Clock.zero).isNegative = false := by
  have hyears : (⟨false, 10 ^ count, 0⟩ : Decimal).toBinary64 = .infinite false := by
    rw [Decimal.toBinary64, if_neg (by simp [Decimal.isZero]), if_pos]
    rw [decimalLength_pow]
    dsimp only
    omega
  rw [isNegative, seconds, hyears]
  decide +kernel

/-! ## Their digits -/

/-- A digit one and so many zeros. -/
def powerDigits (count : Nat) : List Char :=
  '1' :: List.replicate count '0'

theorem asciiDigits_powerDigits (count : Nat) : AsciiDigits (powerDigits count) := by
  intro c hc
  rw [powerDigits, List.mem_cons, List.mem_replicate] at hc
  rcases hc with rfl | ⟨-, rfl⟩ <;> decide

theorem digitsValue_powerDigits (count : Nat) : digitsValue (powerDigits count) = 10 ^ count := by
  rw [powerDigits, digitsValue_cons, digitsValue_replicate_zero, List.length_replicate]
  have hone : (digitValue? '1').getD 0 = 1 := by decide
  rw [hone, Nat.one_mul, Nat.add_zero]

/-! ## A rule of many years -/

/-- A rule that gives so many years for seven to nine. -/
def longRule (id : Option String) {count : Nat} (h : 400 ≤ count) : Rule where
  interval := .category 7 9 (by decide) (by decide)
  result := .calendar ⟨false, 10 ^ count, 0⟩ (Decimal.ofInt 0) Clock.zero
  id := id
  result_valid := Duration.isNegative_years h

theorem isWritable_longRule (id : Option String) {count : Nat} (h : 400 ≤ count)
    (hcount : Decimal.largestExponent < count) : (longRule id h).isWritable = false := by
  rw [Rule.isWritable, longRule]
  simp [Duration.isWritable, Decimal.isInRange_abs_pow hcount]

/-- The compact form that the rule is read from, with all digits of its years. -/
def longForm (count : Nat) : String :=
  String.ofList ('C' :: '7' :: '-' :: '9' :: 'P' :: (powerDigits count ++ ['Y']))

/-- The rule is read whether it can be written or not. -/
theorem RuleTable.parse_longForm [StandIns] (ids : IdSource) {count : Nat} (h : 400 ≤ count) :
    parse ids (longForm count) = .ok (singleton (longRule (some (ids 0)) h)) := by
  have hplain : (Interval.category 7 9 (by decide) (by decide)).IsPlain :=
    ⟨by decide +kernel, by decide +kernel⟩
  have hunits : Duration.UnitChars (powerDigits count ++ ['Y']) := by
    rw [Duration.unitChars_append, Duration.unitChars_cons]
    exact ⟨Duration.unitChars_of_asciiDigits (asciiDigits_powerDigits count), by decide,
      Duration.unitChars_nil⟩
  have hread := Duration.read_years (asciiDigits_powerDigits count)
    (by rw [digitsValue_powerDigits]; positivity)
  rw [digitsValue_powerDigits] at hread
  obtain ⟨restored, hrestored, hparse⟩ := Rule.parse_units (some (ids 0)) hplain hunits hread
    (Duration.isNegative_years h)
  have hinterval : restored = .category 7 9 (by decide) (by decide) := by
    have hparts := hrestored.parts
    cases restored with
    | category lower upper =>
      obtain ⟨rfl, rfl⟩ := hparts
      rfl
    | duration => cases hparts
  subst hinterval
  have hsingle := parse_single ids (Rule.isCompactChar_units hplain hunits)
  rw [hparse] at hsingle
  exact hsingle

/-! ## Years that messages cannot show -/

/-- So many digits nine. -/
def nineDigits (count : Nat) : List Char :=
  List.replicate count '9'

theorem asciiDigits_nineDigits (count : Nat) : AsciiDigits (nineDigits count) := by
  intro c hc
  rw [List.eq_of_mem_replicate hc]
  decide

theorem digitsValue_nineDigits (count : Nat) : digitsValue (nineDigits count) = 10 ^ count - 1 := by
  have hnine : (digitValue? '9').getD 0 = 9 := by decide
  induction count with
  | zero => rfl
  | succ count ih =>
    have hpos : 0 < 10 ^ count := by positivity
    rw [nineDigits] at ih ⊢
    rw [List.replicate_succ, digitsValue_cons, ih, hnine, List.length_replicate, pow_succ]
    omega

theorem decimalLength_nines {count : Nat} (h : 0 < count) :
    decimalLength (10 ^ count - 1) = count := by
  obtain ⟨tail, rfl⟩ := Nat.exists_eq_succ_of_ne_zero h.ne'
  have hpos : 0 < 10 ^ tail := by positivity
  rw [Nat.succ_eq_add_one, pow_succ]
  exact decimalLength_eq_succ (by omega) (by omega)

/-- A long row of nines is cut up to the power of ten above it. -/
theorem Decimal.round_nines {count : Nat} (h : precision < count) (negative : Bool) :
    round ⟨negative, 10 ^ count - 1, 0⟩ = ⟨negative, 10 ^ 27, (count - 27 : Nat)⟩ := by
  rw [precision] at h
  have hcut : excess ⟨negative, 10 ^ count - 1, 0⟩ = count - 28 := by
    rw [excess, decimalLength_nines (by omega)]
    simp only [precision, smallestExponent, largestExponent]
    omega
  have hkept : nearestEven (mkRat (10 ^ count - 1 : Nat) (10 ^ (count - 28))) = 10 ^ 28 := by
    apply nearestEven_eq_of_abs_sub_lt
    have hvalue : ((10 ^ count - 1 : Nat) : Rat) = 10 ^ 28 * 10 ^ (count - 28) - 1 := by
      rw [Nat.cast_sub (Nat.one_le_pow _ _ (by decide)), ← pow_add]
      push_cast
      congr 2
      omega
    have hpos : (0 : Rat) < 10 ^ (count - 28) := by positivity
    have hdistance : mkRat (10 ^ count - 1 : Nat) (10 ^ (count - 28)) - ((10 ^ 28 : Int) : Rat) =
        -(1 / 10 ^ (count - 28)) := by
      rw [Rat.mkRat_eq_div, Int.cast_natCast, hvalue]
      push_cast
      rw [sub_div, mul_div_assoc, div_self hpos.ne']
      ring
    have hten : (10 : Rat) ≤ 10 ^ (count - 28) := by
      exact_mod_cast Nat.le_self_pow (by omega) 10
    rw [hdistance, abs_neg, abs_of_pos (by positivity)]
    exact one_div_lt_one_div_of_lt (by norm_num) (by linarith)
  have hlong : count - 28 ≤ decimalLength (10 ^ count - 1) := by
    rw [decimalLength_nines (by omega)]
    omega
  rw [← hcut] at hkept hlong
  have hfull : (10 ^ 28 : Int).toNat = 10 ^ 28 := rfl
  have hplaces : (0 : Int) + (count - 28 : Nat) + 1 = (count - 27 : Nat) := by omega
  rw [round_of_kept (by omega) hlong (congrArg Int.toNat hkept), if_pos hfull, hcut]
  dsimp only
  rw [hplaces]

/-- A sign in front of a long row of nines gives a power of ten below zero. -/
theorem Duration.read_nines {count : Nat} (h : Decimal.precision < count)
    (hcount : count < Decimal.largestExponent) :
    read (String.ofList ('-' :: 'P' :: (nineDigits count ++ ['Y']))) =
      .ok (.calendar ⟨true, 10 ^ 27, (count - 27 : Nat)⟩ (Decimal.ofInt 0) Clock.zero) := by
  have hten : 10 ≤ 10 ^ count := Nat.le_self_pow (Nat.ne_zero_of_lt h) 10
  have hpos : digitsValue (nineDigits count) ≠ 0 := by
    rw [digitsValue_nineDigits]
    omega
  have hyears : Decimal.ofInt 0 - ⟨false, digitsValue (nineDigits count), 0⟩ =
      ⟨true, 10 ^ 27, (count - 27 : Nat)⟩ := by
    rw [Decimal.zero_sub_eq_round le_rfl (.inl rfl), digitsValue_nineDigits]
    have hnonzero : Decimal.isZero ⟨false, 10 ^ count - 1, 0⟩ = false := by
      rw [Decimal.isZero, beq_eq_false_iff_ne]
      dsimp only
      omega
    rw [hnonzero]
    exact Decimal.round_nines h true
  have hrange : Decimal.isInRange ⟨true, 10 ^ 27, (count - 27 : Nat)⟩ = true := by
    rw [Decimal.isInRange, decimalLength_pow 27, Bool.or_eq_true, decide_eq_true_eq]
    rw [Decimal.precision] at h
    rw [Decimal.largestExponent] at hcount ⊢
    right
    dsimp only
    omega
  have hbeyond : isBeyondArithmetic
      (.calendar ⟨true, 10 ^ 27, (count - 27 : Nat)⟩ (Decimal.ofInt 0) Clock.zero) = false := by
    rw [isBeyondArithmetic, hrange]
    rfl
  rw [read, parse?_signed_years (asciiDigits_nineDigits count) hpos, hyears]
  dsimp only
  rw [hbeyond]
  rfl

/-- Messages cannot show a power of ten that has more digits than readers take. -/
theorem Duration.shown?_pow {count : Nat} (h : digitLimit ≤ count) (hcount : 27 ≤ count) :
    shown? (.calendar ⟨true, 10 ^ 27, (count - 27 : Nat)⟩ (Decimal.ofInt 0) Clock.zero) = none := by
  have htruncate : (Decimal.truncate ⟨true, 10 ^ 27, (count - 27 : Nat)⟩).natAbs = 10 ^ count := by
    rw [Decimal.truncate]
    simp only [Int.natCast_nonneg, if_true, Int.toNat_natCast, Nat.pow_eq, Int.natAbs_neg,
      Int.natAbs_natCast]
    rw [← pow_add]
    congr 1
    omega
  have hyears : intShown? (Decimal.truncate ⟨true, 10 ^ 27, (count - 27 : Nat)⟩) = none := by
    rw [intShown?, htruncate, Nat.pow_eq, if_neg]
    exact not_lt.mpr (Nat.pow_le_pow_right (by decide) h)
  rw [shown?, hyears]
  rfl

end TieredTerms
