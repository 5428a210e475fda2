import TieredTerms.Text.Quoted

/-!
# Rule ids

Rules built from text carry ids that tell them apart while debugging.  An id has four lower-case
hexadecimal digits; it takes no part in what a rule means.

* `isRuleId` recognises an id, `ruleIdOf` is the id of a number.
* An `IdSource` gives an id to every position of a reading.
-/

namespace TieredTerms

/-- The length of an id. -/
def ruleIdLength : Nat := 4

/-- Whether a character is a lower-case hexadecimal digit. -/
def isHexDigit (c : Char) : Bool :=
  ('0' ≤ c && c ≤ '9') || ('a' ≤ c && c ≤ 'f')

/-- Whether a text is in the form of an id.  A single line end behind it does not count. -/
def isRuleId (text : String) : Bool :=
  let cs := text.toList
  let rest := cs.drop ruleIdLength
  (cs.take ruleIdLength).length == ruleIdLength && (cs.take ruleIdLength).all isHexDigit &&
    (rest == [] || rest == ['\n'])

/-- The id of a number, of which only the last four hexadecimal digits count. -/
def ruleIdOf (n : Nat) : String :=
  String.ofList (paddedHex ruleIdLength (n % Nat.pow 16 ruleIdLength))

/-- The ids of the rules that one reading builds, by position. -/
abbrev IdSource := Nat → String

end TieredTerms
