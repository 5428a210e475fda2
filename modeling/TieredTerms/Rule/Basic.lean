import TieredTerms.Duration.Printer
import TieredTerms.Text.Digit

/-!
# Rules

A rule gives a result duration for every value of an inclusive interval.  The interval is one of
categories, which are positive integers, or one of durations, which are ordered by their
projection onto seconds.  An upper bound of zero leaves the interval open above.

* `Interval` and `Rule` carry what construction checks as proof fields.
* `Interval.holds` is membership, `Interval.isUnbounded` tells an open interval.
* `Rule.key` is what equality compares: the kind, the bounds and the result, durations in whole
  milliseconds.  The id is a debugging token and takes no part.
* `Rule.compact` is the compact form, as in `C3-5P10D` or `DP3DP5DP10D`.
-/

namespace TieredTerms

/-- What the bounds of a rule are. -/
inductive Kind where
  | category
  | duration
  deriving DecidableEq, Inhabited

namespace Kind

/-- The letter of a kind, which starts the compact form. -/
def tag : Kind → Char
  | .category => 'C'
  | .duration => 'D'

/-- The letter as a text. -/
def tagText (kind : Kind) : String :=
  String.singleton kind.tag

/-- The name of a kind in messages. -/
def label : Kind → String
  | .category => "CATEGORY"
  | .duration => "DURATION"

/-- The name of a kind in reports. -/
def word : Kind → String
  | .category => "category"
  | .duration => "duration"

/-- The kind of a letter. -/
def ofTag? (text : String) : Option Kind :=
  if text = "C" then some .category else if text = "D" then some .duration else none

@[simp] theorem ofTag?_tagText (kind : Kind) : ofTag? kind.tagText = some kind := by
  cases kind <;> decide

theorem eq_tagText_of_ofTag? {text : String} {kind : Kind} (h : ofTag? text = some kind) :
    text = kind.tagText := by
  rw [ofTag?] at h
  split at h
  · cases h
    assumption
  · split at h
    · cases h
      assumption
    · cases h

end Kind

/-- A value that rules are looked up with. -/
inductive Target where
  | category (n : Int)
  | duration (d : Duration)

/-- The kind of rules that a value can be compared with. -/
def Target.kind : Target → Kind
  | .category _ => .category
  | .duration _ => .duration

/-- An inclusive interval, open above where the upper bound is zero. -/
inductive Interval where
  | category (lower upper : Nat) (lower_pos : 0 < lower)
      (ordered : upper = 0 ∨ lower ≤ upper)
  | duration (lower upper : Duration) (lower_valid : lower.isNegative = false)
      (upper_valid : upper.isNegative = false)
      (ordered : upper.isZero = true ∨ upper.below lower = false)
  deriving DecidableEq

namespace Interval

/-- What the bounds are. -/
def kind : Interval → Kind
  | .category .. => .category
  | .duration .. => .duration

/-- Whether the interval is open above. -/
def isUnbounded : Interval → Bool
  | .category _ upper .. => upper == 0
  | .duration _ upper .. => upper.isZero

/-- Whether a value lies in the interval, both ends included.  A value of the other kind does
not. -/
def holds : Interval → Target → Bool
  | .category lower upper .., .category n =>
    decide ((lower : Int) ≤ n) && (upper == 0 || decide (n ≤ upper))
  | .duration lower upper .., .duration d =>
    !d.below lower && (upper.isZero || d.seconds.le upper.seconds)
  | _, _ => false

/-- The bounds in compact form. -/
def compactChars : Interval → List Char
  | .category lower upper .. => Nat.toDigits 10 lower ++ '-' :: Nat.toDigits 10 upper
  | .duration lower upper .. => lower.formatChars ++ upper.formatChars

/-- Whether the bounds can be written. -/
def isWritable : Interval → Bool
  | .category .. => true
  | .duration lower upper .. => lower.isWritable && upper.isWritable

/-- The bounds as equality compares them. -/
def key : Interval → Except NotFinite (Int × Int)
  | .category lower upper .. => .ok (lower, upper)
  | .duration lower upper .. => do
    let lower ← lower.milliseconds
    let upper ← upper.milliseconds
    return (lower, upper)

end Interval

/-- An interval with the duration that it gives, and a debugging token. -/
structure Rule where
  interval : Interval
  result : Duration
  id : Option String
  result_valid : result.isNegative = false
  deriving DecidableEq

/-- What equality of rules compares. -/
structure RuleKey where
  kind : Kind
  lower : Int
  upper : Int
  result : Int
  deriving DecidableEq

namespace Rule

/-- What the bounds are. -/
def kind (r : Rule) : Kind :=
  r.interval.kind

/-- Whether the rule has no upper bound. -/
def isUnbounded (r : Rule) : Bool :=
  r.interval.isUnbounded

/-- The kind, the bounds and the result.  A projection that is not finite has no milliseconds. -/
def key (r : Rule) : Except NotFinite RuleKey := do
  let (lower, upper) ← r.interval.key
  let result ← r.result.milliseconds
  return { kind := r.kind, lower, upper, result }

/-- Whether two rules are equal; the key of the first is formed first. -/
def equal (a b : Rule) : Except NotFinite Bool := do
  let first ← a.key
  let second ← b.key
  return first == second

/-- Whether two rules are one and the same, with the same token, or else equal.  A rule is the same
as itself even where its key cannot be formed. -/
def sameOrEqual (a b : Rule) : Except NotFinite Bool :=
  if a = b then .ok true else a.equal b

/-- Whether the rule can be written. -/
def isWritable (r : Rule) : Bool :=
  r.interval.isWritable && r.result.isWritable

/-- The characters of the compact form. -/
def compactChars (r : Rule) : List Char :=
  r.kind.tag :: r.interval.compactChars ++ r.result.formatChars

/-- The compact form. -/
def compact (r : Rule) : String :=
  String.ofList r.compactChars

end Rule

end TieredTerms
