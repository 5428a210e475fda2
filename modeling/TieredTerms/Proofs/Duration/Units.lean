import TieredTerms.Duration.Designators
import TieredTerms.Duration.Printer
import TieredTerms.Proofs.Number.PlainDecimal

/-!
# Reading written units

The units of a duration stand in a fixed order and each may be missing.  The reader asks for each
unit in turn, and leaves the text alone where an amount of another unit comes first.

* `ReadsAs` says which amount a text is read as, whatever unit follows it.
* `OptionalUnit` is the text of a unit that may be missing, with its amount.
* `Skips` says that a text starts with no amount of a unit, so that the reader passes it by.
* `body?_units` puts the units of a whole duration together.
-/

namespace TieredTerms

/-! ## Amounts -/

/-- The letters that stand for units. -/
def unitLetters : List Char := ['Y', 'M', 'W', 'D', 'H', 'S']

/-- A text that is read as an amount, whatever unit follows. -/
def ReadsAs (cs : List Char) (amount : Decimal) : Prop :=
  ∀ unit ∈ unitLetters, ∀ rest, readAmount? (cs ++ unit :: rest) = some (amount, unit :: rest)

private theorem unitLetter_facts {unit : Char} (h : unit ∈ unitLetters) :
    isAsciiDigit unit = false ∧ unit ≠ '.' ∧ unit ≠ ',' := by
  simp only [unitLetters, List.mem_cons, List.not_mem_nil, or_false] at h
  rcases h with rfl | rfl | rfl | rfl | rfl | rfl <;> decide

/-- A row of digits is read as the whole number it stands for. -/
theorem readsAs_digits {ds : List Char} (h : AsciiDigits ds) (hne : ds ≠ []) :
    ReadsAs ds ⟨false, digitsValue ds, 0⟩ := by
  intro unit hunit rest
  obtain ⟨hdigit, hpoint, hcomma⟩ := unitLetter_facts hunit
  rw [readAmount?, takeWhile_asciiDigits h hdigit, dropWhile_asciiDigits h hdigit]
  simp [hne, hpoint, hcomma]

/-- A row of digits with a fraction is read with its places. -/
theorem readsAs_fraction {whole fraction : List Char} (hwhole : AsciiDigits whole)
    (hne : whole ≠ []) (hfraction : AsciiDigits fraction) (hne' : fraction ≠ []) :
    ReadsAs (whole ++ '.' :: fraction)
      ⟨false, digitsValue (whole ++ fraction), -(fraction.length : Int)⟩ := by
  intro unit hunit rest
  obtain ⟨hdigit, -, -⟩ := unitLetter_facts hunit
  have hpoint : isAsciiDigit '.' = false := by decide
  rw [List.append_assoc, List.cons_append, readAmount?, takeWhile_asciiDigits hwhole hpoint,
    dropWhile_asciiDigits hwhole hpoint]
  simp [hne, hne', takeWhile_asciiDigits hfraction hdigit, dropWhile_asciiDigits hfraction hdigit]

/-- The digits of a natural number are read as it. -/
theorem readsAs_toDigits (n : Nat) : ReadsAs (Nat.toDigits 10 n) ⟨false, n, 0⟩ := by
  have h := readsAs_digits (asciiDigits_toDigits n) Nat.toDigits_ne_nil
  rwa [digitsValue_toDigits] at h

/-- The written form of a plain number that is not zero is read as it. -/
theorem readsAs_plain {d : Decimal} (h : d.IsPlain) (hne : d.isZero = false) :
    ReadsAs d.abs.toText.toList d := by
  obtain ⟨whole, fraction, hwhole, hfraction, hnil, htext, hvalue, hexponent⟩ := h.abs_toText
  rw [htext, h.eq_of_ne_zero hne, ← hvalue, hexponent, Decimal.rowText]
  split_ifs with hempty
  · subst hempty
    simpa using readsAs_digits hwhole hnil
  · exact readsAs_fraction hwhole hnil hfraction hempty

/-! ## Units that may be missing -/

/-- The text of a unit that may be missing, with its amount. -/
inductive OptionalUnit (unit : Char) : List Char → Decimal → Prop where
  | missing : OptionalUnit unit [] (Decimal.ofInt 0)
  | given {cs : List Char} {amount : Decimal} (h : ReadsAs cs amount) :
    OptionalUnit unit (cs ++ [unit]) amount

/-- A text that starts with no amount of a unit. -/
def Skips (unit : Char) (rest : List Char) : Prop :=
  readUnit unit rest = (Decimal.ofInt 0, rest)

theorem skips_nil (unit : Char) : Skips unit [] := by
  rfl

/-- The mark before the units below the day is no amount. -/
theorem skips_mark (unit : Char) (rest : List Char) : Skips unit ('T' :: rest) := by
  have hdigit : isAsciiDigit 'T' = false := by decide
  rw [Skips, readUnit, readAmount?, List.takeWhile_cons_of_neg (by rw [hdigit]; simp)]
  rfl

/-- A unit is passed by where another one is asked for. -/
theorem OptionalUnit.skips {unit other : Char} {text rest : List Char} {amount : Decimal}
    (h : OptionalUnit other text amount) (hother : other ∈ unitLetters) (hne : other ≠ unit)
    (hrest : Skips unit rest) : Skips unit (text ++ rest) := by
  cases h with
  | missing => exact hrest
  | @given cs _ h =>
    rw [Skips, readUnit, List.append_assoc, List.singleton_append, h other hother rest]
    simp [hne]

/-- A unit is read where it is asked for, if what follows it has no amount of its own of it. -/
theorem OptionalUnit.readUnit_eq {unit : Char} {text rest : List Char} {amount : Decimal}
    (h : OptionalUnit unit text amount) (hunit : unit ∈ unitLetters) (hrest : Skips unit rest) :
    readUnit unit (text ++ rest) = (amount, rest) := by
  cases h with
  | missing => exact hrest
  | @given cs _ h =>
    rw [readUnit, List.append_assoc, List.singleton_append, h unit hunit rest]
    simp

/-- A whole number of a unit. -/
theorem optionalUnit_unitText (n : Nat) (unit : Char) :
    OptionalUnit unit (unitText n unit) ⟨false, n, 0⟩ := by
  rw [unitText]
  split_ifs with h
  · rw [h]
    exact .missing
  · exact .given (readsAs_toDigits n)

/-! ## Whole durations -/

/-- The amounts of a duration whose units are written one after the other.  The units below the
day stand behind a mark, which is left out where none of them is given. -/
theorem body?_units {textY textM textD textH textN textS : List Char}
    {years months days hours minutes seconds : Decimal}
    (hY : OptionalUnit 'Y' textY years) (hM : OptionalUnit 'M' textM months)
    (hD : OptionalUnit 'D' textD days) (hH : OptionalUnit 'H' textH hours)
    (hN : OptionalUnit 'M' textN minutes) (hS : OptionalUnit 'S' textS seconds)
    (negative : Bool) :
    Designators.body? negative
        (textY ++ (textM ++ (textD ++
          if textH ++ (textN ++ textS) = [] then [] else 'T' :: (textH ++ (textN ++ textS))))) =
      some { negative, years, months, weeks := Decimal.ofInt 0, days, hours, minutes,
             seconds } := by
  generalize htail :
    (if textH ++ (textN ++ textS) = [] then [] else 'T' :: (textH ++ (textN ++ textS))) = tail
  have hskip (unit : Char) : Skips unit tail := by
    rw [← htail]
    split_ifs
    · exact skips_nil unit
    · exact skips_mark unit _
  have hreadY := hY.readUnit_eq (by decide)
    (hM.skips (by decide) (by decide) (hD.skips (by decide) (by decide) (hskip 'Y')))
  have hreadM := hM.readUnit_eq (by decide) (hD.skips (by decide) (by decide) (hskip 'M'))
  have hreadW : readUnit 'W' (textD ++ tail) = (Decimal.ofInt 0, textD ++ tail) :=
    hD.skips (by decide) (by decide) (hskip 'W')
  have hreadD := hD.readUnit_eq (by decide) (hskip 'D')
  simp only [Designators.body?, hreadY, hreadM, hreadW, hreadD]
  rw [← htail]
  split_ifs with hempty
  · -- No unit below the day is given, so their amounts are all zero.
    rw [List.append_eq_nil_iff, List.append_eq_nil_iff] at hempty
    obtain ⟨rfl, rfl, rfl⟩ := hempty
    have hzero {unit : Char} {amount : Decimal} (h : OptionalUnit unit [] amount) :
        amount = Decimal.ofInt 0 := by
      generalize hnil : ([] : List Char) = text at h
      cases h with
      | missing => rfl
      | given _ => simp at hnil
    rw [hzero hH, hzero hN, hzero hS]
    rfl
  · have hendH : Skips 'H' (textS ++ []) := hS.skips (by decide) (by decide) (skips_nil 'H')
    have hendN : Skips 'M' (textS ++ []) := hS.skips (by decide) (by decide) (skips_nil 'M')
    have hreadH := hH.readUnit_eq (by decide) (hN.skips (by decide) (by decide) hendH)
    have hreadN := hN.readUnit_eq (by decide) hendN
    have hreadS : readUnit 'S' (textS ++ []) = (seconds, []) :=
      hS.readUnit_eq (by decide) (skips_nil 'S')
    rw [List.append_nil] at hreadH hreadN hreadS
    simp only [hreadH, hreadN, hreadS]
    rfl

end TieredTerms
