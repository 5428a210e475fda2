import TieredTerms.Number.Binary64

/-!
# The shortest text of a double

A double is written with the fewest decimal digits that read back as the same double; of the
numbers with that many digits it is the one nearest to the exact value.

* `RoundingInterval` holds the rationals that round to a given double.
* `shortestDigits` searches the grids of 1, 2, … 17 digits for a point of that interval.
* `FloatLayout` holds what one written format decides about point and exponent, and
  `FloatLayout.write` lays the digits out.
-/

namespace TieredTerms

/-- The rationals that round to one double, its end points included or not. -/
structure RoundingInterval where
  lower : Rat
  upper : Rat
  closed : Bool

namespace RoundingInterval

/-- The interval around `significand · 2 ^ exponent`.  It reaches half way to each neighbour; the
neighbour below a power of two is nearer.  A tie is rounded to the even significand, so the ends
belong to the interval of an even one. -/
def around (significand : Nat) (exponent : Int) : RoundingInterval :=
  let value := (significand : Rat) * 2 ^ exponent
  let step : Rat := 2 ^ exponent
  let nearBelow := significand == Nat.pow 2 52 && decide (Binary64.minExponent < exponent)
  { lower := if nearBelow then value - step / 4 else value - step / 2
    upper := value + step / 2
    closed := significand % 2 == 0 }

/-- Whether a rational lies in the interval. -/
def contains (i : RoundingInterval) (q : Rat) : Bool :=
  if i.closed then decide (i.lower ≤ q) && decide (q ≤ i.upper)
  else decide (i.lower < q) && decide (q < i.upper)

end RoundingInterval

/-- A positive decimal number `digits · 10 ^ exponent`. -/
structure DecimalDigits where
  digits : Nat
  exponent : Int

namespace DecimalDigits

/-- The value of the digits. -/
def toRat (d : DecimalDigits) : Rat :=
  d.digits * 10 ^ d.exponent

/-- Zeros at the end of the digits go into the exponent.  The fuel bounds how many. -/
def trim (d : DecimalDigits) : Nat → DecimalDigits
  | 0 => d
  | fuel + 1 =>
    if d.digits % 10 = 0 ∧ d.digits ≠ 0 then trim ⟨d.digits / 10, d.exponent + 1⟩ fuel else d

end DecimalDigits

/-- The number on the grid `10 ^ exponent` that lies in the interval, the nearer to `value` of the
two neighbours of `value`, a tie going to the even one. -/
def gridPoint? (interval : RoundingInterval) (value : Rat) (exponent : Int) :
    Option DecimalDigits :=
  let below : DecimalDigits := ⟨(value / 10 ^ exponent).floor.toNat, exponent⟩
  let above : DecimalDigits := ⟨below.digits + 1, exponent⟩
  match interval.contains below.toRat, interval.contains above.toRat with
  | true, true =>
    let toBelow := value - below.toRat
    let toAbove := above.toRat - value
    if toBelow < toAbove then some below
    else if toAbove < toBelow then some above
    else if below.digits % 2 = 0 then some below
    else some above
  | true, false => some below
  | false, true => some above
  | false, false => none

/-- The shortest digits of the double `significand · 2 ^ exponent`, for a positive significand.
Seventeen digits always suffice. -/
def shortestDigits (significand : Nat) (exponent : Int) : DecimalDigits :=
  let value := (significand : Rat) * 2 ^ exponent
  let interval := RoundingInterval.around significand exponent
  let top := floorLog10 value
  let found := (List.range 17).findSome? fun (n : Nat) => gridPoint? interval value (top - n)
  (found.getD ⟨(value / 10 ^ (top - 16)).floor.toNat, top - 16⟩).trim 20

/-- What a written format decides about the layout of a double. -/
structure FloatLayout where
  /-- Positional notation needs a decimal point right of this place; 0 is left of the digits. -/
  leastPoint : Int
  /-- Positional notation needs a decimal point at or left of this place. -/
  mostPoint : Int
  /-- Whether a positive exponent has a sign. -/
  plusSign : Bool
  /-- The least number of digits of an exponent. -/
  exponentWidth : Nat
  /-- The text of an infinity, after its sign. -/
  infinity : String
  /-- The text of no number. -/
  nan : String

namespace FloatLayout

/-- The exponent after the mark `e`. -/
def exponentText (layout : FloatLayout) (exponent : Int) : String :=
  let digits := Nat.toDigits 10 exponent.natAbs
  let padding := List.replicate (layout.exponentWidth - digits.length) '0'
  let sign := if exponent < 0 then "-" else if layout.plusSign then "+" else ""
  "e" ++ sign ++ String.ofList (padding ++ digits)

/-- Digits with the decimal point after place `point`. -/
def positional (digits : List Char) (point : Int) : List Char :=
  if point ≤ 0 then
    '0' :: '.' :: (List.replicate (-point).toNat '0' ++ digits)
  else
    let place := point.toNat
    if digits.length ≤ place then
      digits ++ List.replicate (place - digits.length) '0' ++ ['.', '0']
    else digits.take place ++ '.' :: digits.drop place

/-- A positive decimal number in this layout. -/
def digitsText (layout : FloatLayout) (d : DecimalDigits) : String :=
  let digits := Nat.toDigits 10 d.digits
  let point := (digits.length : Int) + d.exponent
  if layout.leastPoint < point ∧ point ≤ layout.mostPoint then
    String.ofList (positional digits point)
  else
    match digits with
    | [] => ""
    | first :: rest =>
      let fraction := if rest.isEmpty then [] else '.' :: rest
      String.ofList (first :: fraction) ++ layout.exponentText (point - 1)

/-- The text of a double in this layout. -/
def write (layout : FloatLayout) : Binary64 → String
  | .nan => layout.nan
  | .infinite negative => (if negative then "-" else "") ++ layout.infinity
  | .finite negative significand exponent =>
    let sign := if negative then "-" else ""
    if significand = 0 then sign ++ "0.0"
    else sign ++ layout.digitsText (shortestDigits significand exponent)

end FloatLayout

end TieredTerms
