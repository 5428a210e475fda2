import TieredTerms.Fault
import TieredTerms.Value

/-!
# Tokens of the compact form

The compact form of a rule is cut into the four arguments of its construction before any of them
is understood.  The first character is the kind.  A bound ends at the next `-`, which is dropped,
or where none follows at the next `P`, which starts the following piece; the first character of a
bound ends nothing.  What remains is the result.

* `cutBound?` cuts one bound off.
* `RuleTokens.ofText` cuts a whole text.
-/

namespace TieredTerms

/-- A bound as it was cut: a whole number, or a text. -/
inductive Token where
  | number (n : Int)
  | text (s : String)
  deriving DecidableEq

/-- The value of a token. -/
def Token.toValue : Token → Value
  | .number n => .int n
  | .text s => .text s

/-- The characters before the first `mark`, if there is one, and the characters from it on. -/
def cutBefore? (mark : Char) (cs : List Char) : Option (List Char × List Char) :=
  if cs.contains mark then some (cs.takeWhile (· ≠ mark), cs.dropWhile (· ≠ mark)) else none

/-- The bound at the start of the characters and what follows it. -/
def cutBound? : List Char → Option (List Char × List Char)
  | [] => none
  | first :: cs =>
    match cutBefore? '-' cs with
    | some (bound, rest) => some (first :: bound, rest.drop 1)
    | none => (cutBefore? 'P' cs).map fun (bound, rest) => (first :: bound, rest)

/-- The whole number that a bound is written as, or its text. -/
def Token.ofChars (cs : List Char) : Except Fault Token :=
  match IntegerText.ofChars? cs with
  | some written =>
    if digitLimit < written.digits.length then .error (.tooManyDigits written.digits.length)
    else .ok (.number written.value)
  | none => .ok (.text (String.ofList cs))

/-- The four arguments of a compact form. -/
structure RuleTokens where
  kind : String
  lower : Token
  upper : Token
  result : String
  deriving DecidableEq

namespace RuleTokens

/-- The bound at a position of the text, and what follows it. -/
def bound (text : String) (position : Nat) (cs : List Char) : Except Fault (Token × List Char) :=
  match cutBound? cs with
  | none => .error (.boundMissing position text)
  | some (bound, rest) => do return (← Token.ofChars bound, rest)

/-- The pieces of a text. -/
def ofText (text : String) : Except Fault RuleTokens := do
  let cs := text.toList
  let (lower, rest) ← bound text 1 (cs.drop 1)
  let (upper, rest) ← bound text 2 rest
  if rest.isEmpty then throw (.resultMissing text)
  return { kind := String.ofList (cs.take 1), lower, upper, result := String.ofList rest }

/-- The pieces of a value that is a text. -/
def ofValue (v : Value) : Except Fault RuleTokens :=
  match v.asText? with
  | some text => ofText text
  | none => .error (.tokensOf v.typeName)

end RuleTokens

end TieredTerms
