import TieredTerms.Duration.Basic

/-!
# The written form of durations

A duration is written with the designators of ISO 8601: `P`, then years, months and days, then `T`
and hours, minutes and seconds.  Units that are zero are left out, weeks are never written, and
the empty duration is `P0D`.

A minus sign stands in front where any part is negative; the parts themselves are written without
sign.  `Duration.format` is the written form, `Duration.isWritable` tells whether there is one.
-/

namespace TieredTerms

/-- A whole number of a unit; nothing for zero. -/
def unitText (n : Nat) (unit : Char) : List Char :=
  if n = 0 then [] else Nat.toDigits 10 n ++ [unit]

/-- A decimal number of a unit; nothing for zero. -/
def decimalUnitText (d : Decimal) (unit : Char) : List Char :=
  if d.isZero then [] else d.abs.toText.toList ++ [unit]

/-- The six digits of a fraction of a second, without zeros at the end. -/
def fractionDigits (micros : Nat) : List Char :=
  ((Nat.toDigits 10 (microsPerSecond + micros)).drop 1).reverse.dropWhile (· == '0') |>.reverse

/-- Seconds with their fraction; nothing for zero. -/
def secondsText (seconds micros : Nat) : List Char :=
  if micros = 0 then unitText seconds 'S'
  else Nat.toDigits 10 seconds ++ '.' :: fractionDigits micros ++ ['S']

/-- The units below the day, after a `T` if there are any. -/
def timeOfDayText (micros : Nat) : List Char :=
  let seconds := micros / microsPerSecond
  let parts := unitText (seconds / 3600) 'H' ++ unitText (seconds / 60 % 60) 'M' ++
    secondsText (seconds % 60) (micros % microsPerSecond)
  if parts.isEmpty then [] else 'T' :: parts

/-- The units of the clock, from the day down. -/
def clockText (micros : Nat) : List Char :=
  unitText (micros / microsPerDay) 'D' ++ timeOfDayText (micros % microsPerDay)

namespace Duration

/-- Whether the written form has a minus sign. -/
def hasMinus : Duration → Bool
  | .clock time => decide (time.micros < 0)
  | .calendar years months time =>
    years.isNegative || months.isNegative || decide (time.micros < 0)

/-- The units of the written form. -/
def unitsText : Duration → List Char
  | .clock time => clockText time.micros.natAbs
  | .calendar years months time =>
    decimalUnitText years 'Y' ++ decimalUnitText months 'M' ++ clockText time.micros.natAbs

/-- The characters of the written form. -/
def formatChars (d : Duration) : List Char :=
  let units := d.unitsText
  (if d.hasMinus then ['-'] else []) ++ 'P' :: (if units.isEmpty then ['0', 'D'] else units)

/-- The written form. -/
def format (d : Duration) : String :=
  String.ofList d.formatChars

/-- Whether the duration can be written: years and months are not too large for decimal
arithmetic. -/
def isWritable : Duration → Bool
  | .clock _ => true
  | .calendar years months _ => years.abs.isInRange && months.abs.isInRange

end Duration

end TieredTerms
