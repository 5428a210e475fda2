/-!
# Decimal digits

The decimal digits of all scripts come in runs of ten, from zero to nine.  `digitZeros` lists the
zero of every run; a character is a digit if it is at most nine places above one of them.

* `digitValue?` is the value of a digit.
* `IntegerText.ofChars?` reads an optional sign and digits, and nothing else.  `digitLimit` is the
  most digits that a number may have where a reader turns it into an integer.
* `natText` and `intText` write whole numbers.
-/

namespace TieredTerms

/-- The code points of the decimal zeros of all scripts, in ascending order. -/
def digitZeros : List Nat :=
  [
    0x30, 0x660, 0x6f0, 0x7c0, 0x966, 0x9e6, 0xa66, 0xae6, 0xb66, 0xbe6, 0xc66, 0xce6, 0xd66,
    0xde6, 0xe50, 0xed0, 0xf20, 0x1040, 0x1090, 0x17e0, 0x1810, 0x1946, 0x19d0, 0x1a80, 0x1a90,
    0x1b50, 0x1bb0, 0x1c40, 0x1c50, 0xa620, 0xa8d0, 0xa900, 0xa9d0, 0xa9f0, 0xaa50, 0xabf0,
    0xff10, 0x104a0, 0x10d30, 0x11066, 0x110f0, 0x11136, 0x111d0, 0x112f0, 0x11450, 0x114d0,
    0x11650, 0x116c0, 0x11730, 0x118e0, 0x11950, 0x11c50, 0x11d50, 0x11da0, 0x16a60, 0x16ac0,
    0x16b50, 0x1d7ce, 0x1d7d8, 0x1d7e2, 0x1d7ec, 0x1d7f6, 0x1e140, 0x1e2f0, 0x1e950, 0x1fbf0
  ]

/-- The value of a decimal digit of any script. -/
def digitValue? (c : Char) : Option Nat :=
  if c.toNat < 0x660 then
    if '0'.toNat ≤ c.toNat ∧ c.toNat ≤ '9'.toNat then some (c.toNat - '0'.toNat) else none
  else
    (digitZeros.find? fun first => first ≤ c.toNat ∧ c.toNat < first + 10).map (c.toNat - ·)

/-- Whether a character is a decimal digit of any script. -/
def isDigit (c : Char) : Bool :=
  (digitValue? c).isSome

/-- Whether a character is one of the ten ASCII digits. -/
def isAsciiDigit (c : Char) : Bool :=
  '0' ≤ c && c ≤ '9'

/-- Digits while their number is formed: the number of the digits so far without the last ones,
the number of these, and their count. -/
structure DigitSum where
  whole : Nat
  part : Nat
  count : Nat

namespace DigitSum

/-- The most digits that are kept apart, so that the whole is not formed anew for every digit. -/
def countLimit : Nat := 1000

/-- The number of all digits so far. -/
def value (s : DigitSum) : Nat :=
  s.whole * Nat.pow 10 s.count + s.part

/-- One digit more. -/
def push (s : DigitSum) (c : Char) : DigitSum :=
  let next := { s with part := 10 * s.part + (digitValue? c).getD 0, count := s.count + 1 }
  if next.count < countLimit then next else ⟨next.value, 0, 0⟩

end DigitSum

/-- The number that a row of digits stands for, the first digit weighing most. -/
def digitsValue (cs : List Char) : Nat :=
  (cs.foldl DigitSum.push ⟨0, 0, 0⟩).value

/-- A whole number as it is written: whether it has a minus sign, and its digits. -/
structure IntegerText where
  negative : Bool
  digits : List Char
  deriving DecidableEq

namespace IntegerText

/-- An optional sign and one or more digits make the text of a whole number. -/
def ofChars? : List Char → Option IntegerText
  | '-' :: cs => ofDigits? true cs
  | '+' :: cs => ofDigits? false cs
  | cs => ofDigits? false cs
where
  /-- One or more digits. -/
  ofDigits? (negative : Bool) (cs : List Char) : Option IntegerText :=
    if cs.isEmpty || !cs.all isDigit then none else some ⟨negative, cs⟩

/-- The number that the text stands for. -/
def value (t : IntegerText) : Int :=
  if t.negative then -(digitsValue t.digits : Int) else digitsValue t.digits

end IntegerText

/-- The most digits that the text of a whole number may have, leading zeros counted. -/
def digitLimit : Nat := 4300

/-- The decimal text of a natural number. -/
def natText (n : Nat) : String :=
  String.ofList (Nat.toDigits 10 n)

/-- The decimal text of an integer. -/
def intText (n : Int) : String :=
  if n < 0 then "-" ++ natText n.natAbs else natText n.natAbs

end TieredTerms
