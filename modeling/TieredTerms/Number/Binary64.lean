import TieredTerms.Number.Rounding

/-!
# Doubles

The IEEE 754 double, as a sign, a significand and a power of two.  Each operation computes the
exact rational result and rounds it once to the nearest double, so a statement about doubles is a
statement about rationals and about `nearestEven`.

* `Binary64.ofMagnitude` and `Binary64.ofRat` round a rational.
* `Binary64.toRat?` is the exact value of a finite double.
* `Binary64.add`, `Binary64.mul`, `Binary64.lt` and `Binary64.same` are the operations that the
  projection of durations needs.
* `Binary64.toBits` is the interchange encoding.
-/

namespace TieredTerms

/-- A double: `± significand · 2 ^ exponent`, an infinity, or no number.  The doubles that
`Binary64.ofMagnitude` builds have a significand below `2 ^ 53` and the least exponent that holds
the value. -/
inductive Binary64 where
  | finite (negative : Bool) (significand : Nat) (exponent : Int)
  | infinite (negative : Bool)
  | nan
  deriving DecidableEq, Inhabited

/-- Why a double stands for no integer. -/
inductive NotFinite where
  | infinity
  | nan
  deriving DecidableEq

namespace Binary64

/-- The exponent of the smallest doubles. -/
def minExponent : Int := -1074

/-- The exponent of the largest doubles. -/
def maxExponent : Int := 971

/-- The first significand that a double cannot hold. -/
def significandBound : Nat := Nat.pow 2 53

/-- The zero of the given sign. -/
def zero (negative : Bool) : Binary64 :=
  .finite negative 0 minExponent

/-- The exact value of a finite double. -/
def toRat? : Binary64 → Option Rat
  | .finite negative significand exponent =>
    let magnitude := (significand : Rat) * 2 ^ exponent
    some (if negative then -magnitude else magnitude)
  | _ => none

/-- The exact value of a finite double, or the reason why there is none. -/
def finite? : Binary64 → Except NotFinite Rat
  | .finite negative significand exponent =>
    let magnitude := (significand : Rat) * 2 ^ exponent
    .ok (if negative then -magnitude else magnitude)
  | .infinite _ => .error .infinity
  | .nan => .error .nan

/-- A significand with an exponent, or an infinity where the exponent is out of range. -/
def pack (negative : Bool) (significand : Nat) (exponent : Int) : Binary64 :=
  if maxExponent < exponent then .infinite negative
  else .finite negative significand exponent

/-- The double of the given sign that is nearest to the magnitude `q`. -/
def ofMagnitude (negative : Bool) (q : Rat) : Binary64 :=
  if q ≤ 0 then zero negative
  else
    let exponent := max (floorLog2 q - 52) minExponent
    let significand := (nearestEven (q / 2 ^ exponent)).toNat
    if significand = significandBound then pack negative (significandBound / 2) (exponent + 1)
    else pack negative significand exponent

/-- The double nearest to `q`; zero is positive. -/
def ofRat (q : Rat) : Binary64 :=
  ofMagnitude (decide (q < 0)) q.abs

/-- The double nearest to the integer `n`. -/
def ofInt (n : Int) : Binary64 :=
  ofRat n

/-- The sum, rounded once.  A sum of zero is negative only where both terms are. -/
def add : Binary64 → Binary64 → Binary64
  | .nan, _ => .nan
  | _, .nan => .nan
  | .infinite a, .infinite b => if a = b then .infinite a else .nan
  | .infinite a, _ => .infinite a
  | _, .infinite b => .infinite b
  | .finite a m e, .finite b n f =>
    let sum := ((finite a m e).toRat?.getD 0) + ((finite b n f).toRat?.getD 0)
    if sum = 0 then zero (a && b) else ofRat sum

/-- The product, rounded once. -/
def mul : Binary64 → Binary64 → Binary64
  | .nan, _ => .nan
  | _, .nan => .nan
  | .infinite a, .infinite b => .infinite (a != b)
  | .infinite a, .finite b m _ => if m = 0 then .nan else .infinite (a != b)
  | .finite a m _, .infinite b => if m = 0 then .nan else .infinite (a != b)
  | .finite a m e, .finite b n f =>
    ofMagnitude (a != b) ((m : Rat) * 2 ^ e * ((n : Rat) * 2 ^ f))

instance : Add Binary64 := ⟨add⟩
instance : Mul Binary64 := ⟨mul⟩

/-- The order of doubles as numbers: both zeros are equal, and `nan` is below nothing. -/
def lt : Binary64 → Binary64 → Bool
  | .nan, _ => false
  | _, .nan => false
  | .infinite a, .infinite b => a && !b
  | .infinite a, .finite .. => a
  | .finite .., .infinite b => !b
  | .finite a m e, .finite b n f =>
    decide ((finite a m e).toRat?.getD 0 < (finite b n f).toRat?.getD 0)

/-- Equality of doubles as numbers: both zeros are equal, and `nan` differs from itself. -/
def same : Binary64 → Binary64 → Bool
  | .nan, _ => false
  | _, .nan => false
  | .infinite a, .infinite b => a == b
  | .infinite _, .finite .. => false
  | .finite .., .infinite _ => false
  | .finite a m e, .finite b n f =>
    decide ((finite a m e).toRat?.getD 0 = (finite b n f).toRat?.getD 0)

/-- At most, as numbers. -/
def le (x y : Binary64) : Bool :=
  x.lt y || x.same y

/-- The value without its fraction, toward zero. -/
def integerPart (q : Rat) : Int :=
  if q < 0 then q.ceil else q.floor

/-- The 64 bits of the interchange format: sign, biased exponent, trailing significand. -/
def toBits : Binary64 → Nat
  | .nan => 0x7ff8000000000000
  | .infinite negative => (if negative then Nat.pow 2 63 else 0) + 0x7ff * Nat.pow 2 52
  | .finite negative significand exponent =>
    let biased := if significand < Nat.pow 2 52 then 0 else (exponent - minExponent + 1).toNat
    (if negative then Nat.pow 2 63 else 0) + biased * Nat.pow 2 52 + significand % Nat.pow 2 52

/-! ## Facts about the value -/

@[simp] theorem finite?_eq_ok {x : Binary64} {q : Rat} : x.finite? = .ok q ↔ x.toRat? = some q := by
  cases x <;> simp [finite?, toRat?]

end Binary64

end TieredTerms
