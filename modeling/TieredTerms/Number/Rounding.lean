/-!
# Rounding rationals

A rational is rounded to the integers, or placed between two powers of a base.  Every inexact
step of the library, binary or decimal, goes through this file: the exact value is computed
first and rounded once.

* `nearestEven` is the nearest integer, a tie going to the even neighbour.
* `floorLog2` and `floorLog10` give the power of the base at or below a positive rational.
-/

namespace TieredTerms

/-- The integer nearest to `q`.  Of two that are equally near it is the even one. -/
def nearestEven (q : Rat) : Int :=
  let n := q.floor
  let part := q - n
  if part < 1 / 2 then n
  else if 1 / 2 < part then n + 1
  else if n % 2 = 0 then n
  else n + 1

/-- The exponent of the largest power of two that is at most `q`, for a positive `q`.  The bit
lengths of numerator and denominator leave two candidates, and a comparison decides. -/
def floorLog2 (q : Rat) : Int :=
  let guess := (q.num.natAbs.log2 : Int) - (q.den.log2 : Int)
  if (2 : Rat) ^ guess ≤ q then guess else guess - 1

/-- The number of decimal digits of `n`, which is below `10 ^ 2 ^ k`.  A number of more than half
as many digits is cut in two. -/
def decimalLengthBelow : Nat → Nat → Nat
  | 0, _ => 1
  | k + 1, n =>
    let half := Nat.pow 10 (Nat.pow 2 k)
    if n < half then decimalLengthBelow k n else Nat.pow 2 k + decimalLengthBelow k (n / half)

/-- The number of decimal digits of `n`; zero has one. -/
def decimalLength (n : Nat) : Nat :=
  decimalLengthBelow ((n.log2 + 1).log2 + 1) n

/-- The exponent of the largest power of ten that is at most `q`, for a positive `q`. -/
def floorLog10 (q : Rat) : Int :=
  let guess := (decimalLength q.num.natAbs : Int) - (decimalLength q.den : Int)
  if (10 : Rat) ^ guess ≤ q then guess else guess - 1

/-! ## What nearest means -/

/-- An integer rounds to itself. -/
@[simp] theorem nearestEven_intCast (n : Int) : nearestEven (n : Rat) = n := by
  unfold nearestEven
  have part : (n : Rat) - n = 0 := by grind
  simp only [Rat.floor_intCast, part]
  grind

end TieredTerms
