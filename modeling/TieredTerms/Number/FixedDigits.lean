import TieredTerms.Number.Rounding

/-!
# A given number of digits

A rational that is not negative is written with as many digits as are asked for, rounded once to
the nearest number with so many, a tie going to the even one.

* `fixedText` has a given number of places behind the point.
* `scientificText` has one digit before the point, and an exponent.
* `generalText` has a given number of significant digits, in the form that suits the exponent.

A text that is `full` keeps the point without a place behind it, and zeros at the end where they
would be left out.
-/

namespace TieredTerms

/-- Digits with a point before the places behind it; a point with nothing behind it is written in
full texts alone. -/
def withPoint (full : Bool) (whole places : List Char) : List Char :=
  if places.isEmpty && !full then whole else whole ++ '.' :: places

/-- A rational with so many places behind the point. -/
def fixedText (full : Bool) (places : Nat) (q : Rat) : List Char :=
  let digits := Nat.toDigits 10 (nearestEven (q * 10 ^ places)).toNat
  let digits := List.replicate (places + 1 - digits.length) '0' ++ digits
  withPoint full (digits.take (digits.length - places)) (digits.drop (digits.length - places))

/-- So many significant digits of a rational, and the exponent of the first one. -/
def significantDigits (count : Nat) (q : Rat) : List Char × Int :=
  if q = 0 then (List.replicate count '0', 0)
  else
    let top := floorLog10 q
    let kept := (nearestEven (q * 10 ^ ((count : Int) - 1 - top))).toNat
    if kept = Nat.pow 10 count then (Nat.toDigits 10 (kept / 10), top + 1)
    else (Nat.toDigits 10 kept, top)

/-- An exponent of at least two digits behind its mark. -/
def exponentMark (mark : Char) (exponent : Int) : List Char :=
  let digits := Nat.toDigits 10 exponent.natAbs
  mark :: (if exponent < 0 then '-' else '+') :: List.replicate (2 - digits.length) '0' ++ digits

/-- A rational with one digit before the point, so many places behind it, and an exponent. -/
def scientificText (full : Bool) (mark : Char) (places : Nat) (q : Rat) : List Char :=
  let (digits, exponent) := significantDigits (places + 1) q
  withPoint full (digits.take 1) (digits.drop 1) ++ exponentMark mark exponent

/-- Places without the zeros at their end, which full texts keep. -/
def trimmedPlaces (full : Bool) (places : List Char) : List Char :=
  if full then places else (places.reverse.dropWhile (· == '0')).reverse

/-- A rational with so many significant digits, one at least.  It has an exponent where that would
be below `-4`, or where there are more digits before the point than are asked for. -/
def generalText (full : Bool) (mark : Char) (precision : Nat) (q : Rat) : List Char :=
  let count := max 1 precision
  let (digits, exponent) := significantDigits count q
  if exponent < -4 ∨ (count : Int) ≤ exponent then
    withPoint full (digits.take 1) (trimmedPlaces full (digits.drop 1)) ++
      exponentMark mark exponent
  else if exponent < 0 then
    withPoint full ['0']
      (trimmedPlaces full (List.replicate (-exponent - 1).toNat '0' ++ digits))
  else
    let place := exponent.toNat + 1
    withPoint full (digits.take place) (trimmedPlaces full (digits.drop place))

end TieredTerms
