import TieredTerms.Number.Binary64
import TieredTerms.Text.Blank
import TieredTerms.Text.Digit

/-!
# Decimal numbers

A decimal number keeps the digits it was written with: `1.50` and `1.5` have one value and two
forms.  Reading is exact.  Arithmetic keeps at most 28 significant digits, and exponents in a range
of its own, and rounds a tie to the even neighbour.

* `Decimal.parse` reads a text, `Decimal.toRat` is the value.
* `Decimal.round` cuts a number to the arithmetic's precision, `Decimal.isInRange` tells whether it
  is not too large for the arithmetic.
* `Decimal.toText` is the written form, scientific where the exponent asks for it.
-/

namespace TieredTerms

/-- `± coefficient · 10 ^ exponent`. -/
structure Decimal where
  negative : Bool
  coefficient : Nat
  exponent : Int
  deriving DecidableEq, Inhabited

namespace Decimal

/-- The number of significant digits that arithmetic keeps. -/
def precision : Nat := 28

/-- The largest exponent that the first digit of a result may have. -/
def largestExponent : Int := 999999

/-- The smallest exponent that the last digit of a result may have. -/
def smallestExponent : Int := -largestExponent - (precision - 1)

/-- The integer `n`. -/
def ofInt (n : Int) : Decimal :=
  ⟨decide (n < 0), n.natAbs, 0⟩

/-- The number that a text stands for: an optional sign, digits of any script with a point before,
between or behind them, and an optional exponent behind an `e`.  Blanks around the text and
underscores anywhere in it do not count. -/
def ofText? (text : String) : Option Decimal :=
  let (negative, cs) := signed ((stripChars text.toList).filter (· != '_'))
  let whole := cs.takeWhile isDigit
  let rest := cs.dropWhile isDigit
  let (fraction, rest) :=
    match rest with
    | '.' :: rest => (rest.takeWhile isDigit, rest.dropWhile isDigit)
    | rest => ([], rest)
  let digits := whole ++ fraction
  if digits.isEmpty then none
  else
    (exponent? rest).map fun exponent =>
      ⟨negative, digitsValue digits, exponent - fraction.length⟩
where
  /-- The sign of a text, and the text behind it. -/
  signed : List Char → Bool × List Char
    | '-' :: cs => (true, cs)
    | '+' :: cs => (false, cs)
    | cs => (false, cs)
  /-- The exponent that a whole text stands for; an empty one stands for zero. -/
  exponent? : List Char → Option Int
    | [] => some 0
    | mark :: cs =>
      if mark == 'e' || mark == 'E' then (IntegerText.ofChars? cs).map IntegerText.value else none

/-- Why a text gives no decimal number. -/
inductive TextFault where
  /-- The text is not in the form of a number. -/
  | form
  /-- The exponent of the number is out of the range of texts. -/
  | exponent
  deriving DecidableEq

/-- The bound of the exponents of texts: the first digit of a number stands below it, and the last
one less than twice as far on the other side. -/
def exponentBound : Int := Nat.pow 10 18

/-- The number of a text, if its exponent is in range. -/
def parse (text : String) : Except TextFault Decimal :=
  match ofText? text with
  | none => .error .form
  | some d =>
    let first :=
      if d.coefficient = 0 then d.exponent else d.exponent + decimalLength d.coefficient - 1
    if first < exponentBound ∧ 2 - 2 * exponentBound < d.exponent then .ok d else .error .exponent

/-- The value of a decimal number. -/
def toRat (d : Decimal) : Rat :=
  let magnitude := (d.coefficient : Rat) * 10 ^ d.exponent
  if d.negative then -magnitude else magnitude

/-- Whether the value is zero. -/
def isZero (d : Decimal) : Bool :=
  d.coefficient == 0

/-- Whether the value is below zero. -/
def isNegative (d : Decimal) : Bool :=
  d.negative && !d.isZero

/-- The number of digits that arithmetic cuts off: those beyond its precision, and those below its
smallest exponent. -/
def excess (d : Decimal) : Nat :=
  max (decimalLength d.coefficient - precision) (smallestExponent - d.exponent).toNat

/-- The number cut to `precision` digits and to the smallest exponent.  Cutting `99…9` up gives one
digit more, a zero, which goes into the exponent.  Of a number with fewer digits than are cut off
nothing is left. -/
def round (d : Decimal) : Decimal :=
  let cut := d.excess
  if cut = 0 then d
  else
    let kept :=
      if decimalLength d.coefficient < cut then 0
      else (nearestEven (mkRat d.coefficient (Nat.pow 10 cut))).toNat
    if kept = Nat.pow 10 precision then ⟨d.negative, kept / 10, d.exponent + cut + 1⟩
    else ⟨d.negative, kept, d.exponent + cut⟩

/-- Whether a number is not too large for a result of arithmetic: the exponent of its first digit
is in range. -/
def isInRange (d : Decimal) : Bool :=
  d.isZero || decide (d.exponent + decimalLength d.coefficient ≤ largestExponent + 1)

/-- The magnitude, cut to the precision. -/
def abs (d : Decimal) : Decimal :=
  round { d with negative := false }

/-- The signed coefficient of a number on the grid `10 ^ exponent`, for an exponent at or below
the number's own. -/
def scaledTo (d : Decimal) (exponent : Int) : Int :=
  let scaled : Int := d.coefficient * Nat.pow 10 (d.exponent - exponent).toNat
  if d.negative then -scaled else scaled

/-- The difference, cut to the precision.  A difference of zero is positive. -/
def sub (a b : Decimal) : Decimal :=
  let exponent := min a.exponent b.exponent
  let difference := a.scaledTo exponent - b.scaledTo exponent
  round ⟨decide (difference < 0), difference.natAbs, exponent⟩

instance : Sub Decimal := ⟨sub⟩

/-- The number times a natural number, cut to the precision. -/
def timesNat (d : Decimal) (n : Nat) : Decimal :=
  round { d with coefficient := d.coefficient * n }

/-- The integer part, toward zero. -/
def truncate (d : Decimal) : Int :=
  let magnitude : Nat :=
    if 0 ≤ d.exponent then d.coefficient * Nat.pow 10 d.exponent.toNat
    else d.coefficient / Nat.pow 10 (-d.exponent).toNat
  if d.negative then -(magnitude : Int) else magnitude

/-- The number on the grid of six places at or below it. -/
def floorToMicro (d : Decimal) : Decimal :=
  let floor := (d.toRat * 10 ^ (6 : Nat)).floor
  ⟨decide (floor < 0), floor.natAbs, -6⟩

/-- The double nearest to the number.  Numbers of `10 ^ 400` and more are beyond the largest
double, and numbers below `10 ^ -400` are below half of the smallest. -/
def toBinary64 (d : Decimal) : Binary64 :=
  if d.isZero then Binary64.zero d.negative
  else if 400 < d.exponent + decimalLength d.coefficient then .infinite d.negative
  else if d.exponent + decimalLength d.coefficient < -400 then Binary64.zero d.negative
  else Binary64.ofMagnitude d.negative (d.coefficient * 10 ^ d.exponent)

/-- The written form.  It is positional where the exponent is not positive and at most five zeros
follow the point; else the point follows the first digit and `E` marks a signed exponent. -/
def toText (d : Decimal) : String :=
  let digits := Nat.toDigits 10 d.coefficient
  let leading := d.exponent + digits.length
  let scientific := decide (0 < d.exponent) || decide (leading ≤ -6)
  let point := if scientific then 1 else leading
  let mantissa :=
    if point ≤ 0 then '0' :: '.' :: (List.replicate (-point).toNat '0' ++ digits)
    else if digits.length ≤ point.toNat then
      digits ++ List.replicate (point.toNat - digits.length) '0'
    else digits.take point.toNat ++ '.' :: digits.drop point.toNat
  let power := leading - point
  let suffix :=
    if power = 0 then ""
    else (if power < 0 then "E-" else "E+") ++ String.ofList (Nat.toDigits 10 power.natAbs)
  (if d.negative then "-" else "") ++ String.ofList mantissa ++ suffix

end Decimal

end TieredTerms
