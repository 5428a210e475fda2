import TieredTerms.Duration.Basic
import TieredTerms.Text.Digit

/-!
# Reading designators

The designator form of a duration: an optional sign, `P`, and amounts of years, months, weeks and
days, then optionally `T` and amounts of hours, minutes and seconds.  Units come in this order and
each may be missing.  An amount is a decimal number of ASCII digits, with a point or a comma.

* `readAmount?` reads a number, `readUnit` an amount of one unit or nothing.
* `Designators.ofChars?` reads the whole form.
* `Designators.toDuration?` is what the amounts mean.
-/

namespace TieredTerms

/-- A decimal number of ASCII digits, with an optional fraction behind a point or a comma, and
what follows it.  A point or comma without a digit behind it is not part of the number. -/
def readAmount? (cs : List Char) : Option (Decimal × List Char) :=
  let whole := cs.takeWhile isAsciiDigit
  let rest := cs.dropWhile isAsciiDigit
  if whole.isEmpty then none
  else
    match rest with
    | mark :: rest' =>
      let fraction := rest'.takeWhile isAsciiDigit
      if (mark == '.' || mark == ',') && !fraction.isEmpty then
        some (⟨false, digitsValue (whole ++ fraction), -(fraction.length : Int)⟩,
          rest'.dropWhile isAsciiDigit)
      else some (⟨false, digitsValue whole, 0⟩, rest)
    | [] => some (⟨false, digitsValue whole, 0⟩, [])

/-- An amount of the unit at the start of the text and what follows it, or zero and the whole text
where there is none. -/
def readUnit (unit : Char) (cs : List Char) : Decimal × List Char :=
  match readAmount? cs with
  | some (amount, c :: rest) => if c = unit then (amount, rest) else (Decimal.ofInt 0, cs)
  | _ => (Decimal.ofInt 0, cs)

/-- The amounts of a duration in designator form. -/
structure Designators where
  negative : Bool
  years : Decimal
  months : Decimal
  weeks : Decimal
  days : Decimal
  hours : Decimal
  minutes : Decimal
  seconds : Decimal

/-- Whether a text is at its end; one line end may follow. -/
def atTextEnd (cs : List Char) : Bool :=
  cs == [] || cs == ['\n']

namespace Designators

/-- The amounts after `P`. -/
def body? (negative : Bool) (cs : List Char) : Option Designators := do
  let (years, cs) := readUnit 'Y' cs
  let (months, cs) := readUnit 'M' cs
  let (weeks, cs) := readUnit 'W' cs
  let (days, cs) := readUnit 'D' cs
  let none := Decimal.ofInt 0
  match cs with
  | 'T' :: cs =>
    let (hours, cs) := readUnit 'H' cs
    let (minutes, cs) := readUnit 'M' cs
    let (seconds, cs) := readUnit 'S' cs
    guard (atTextEnd cs)
    return { negative, years, months, weeks, days, hours, minutes, seconds }
  | cs =>
    guard (atTextEnd cs)
    return { negative, years, months, weeks, days, hours := none, minutes := none, seconds := none }

/-- The amounts of a whole text.  Something has to follow `P`. -/
def ofChars? (cs : List Char) : Option Designators :=
  let (negative, cs) :=
    match cs with
    | '-' :: cs => (true, cs)
    | '+' :: cs => (false, cs)
    | cs => (false, cs)
  match cs with
  | 'P' :: cs => if atTextEnd cs then none else body? negative cs
  | _ => none

/-- The clock units of the amounts, each read as a double. -/
def clock? (d : Designators) : Option Clock :=
  let parts : ClockParts :=
    { seconds := .real d.seconds.toBinary64
      minutes := .real d.minutes.toBinary64
      hours := .real d.hours.toBinary64
      days := .real d.days.toBinary64
      weeks := .real d.weeks.toBinary64 }
  (Clock.ofParts parts).toOption

/-- The duration that the amounts mean: a clock duration where years and months are zero. -/
def toDuration? (d : Designators) : Option Duration := do
  let time ← d.clock?
  let duration :=
    if d.years.isZero && d.months.isZero then .clock time else .calendar d.years d.months time
  if d.negative then duration.neg? else some duration

end Designators

end TieredTerms
