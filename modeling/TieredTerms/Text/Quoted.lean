import TieredTerms.Text.LoneUnit
import TieredTerms.Text.Printable

/-!
# Quoted texts

A text shown inside a message stands between quotes.  The quote is `'`, or `"` where the text
holds `'` and no `"`.  A backslash and the quote itself are escaped, and so is every character
that is not printable.  A lone unit is escaped as itself.
-/

namespace TieredTerms

/-- A hexadecimal text of at least `width` digits, filled up with zeros. -/
def paddedHex (width n : Nat) : List Char :=
  let digits := Nat.toDigits 16 n
  List.replicate (width - digits.length) '0' ++ digits

/-- The escape of a code point in as many digits as it needs. -/
def codePointEscape (n : Nat) : List Char :=
  if n < 0x100 then '\\' :: 'x' :: paddedHex 2 n
  else if n < 0x10000 then '\\' :: 'u' :: paddedHex 4 n
  else '\\' :: 'U' :: paddedHex 8 n

/-- A character inside a text that is quoted by `quote`. -/
def quotedChar [StandIns] (quote c : Char) : List Char :=
  if c = quote ∨ c = '\\' then ['\\', c]
  else if c = '\n' then ['\\', 'n']
  else if c = '\r' then ['\\', 'r']
  else if c = '\t' then ['\\', 't']
  else if isPrintable c then [c]
  else codePointEscape ((loneUnit? c).getD c.toNat)

/-- The quote that a text is shown between. -/
def quoteFor (cs : List Char) : Char :=
  if cs.contains '\'' && !cs.contains '"' then '"' else '\''

/-- A text between quotes, with its special characters escaped. -/
def quoted [StandIns] (s : String) : String :=
  let cs := s.toList
  let quote := quoteFor cs
  String.ofList (quote :: cs.flatMap (quotedChar quote) ++ [quote])

end TieredTerms
