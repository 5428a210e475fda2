import TieredTerms.Rule.Build

/-!
# Matching rules

Whether a rule holds for a value.  A rule of categories takes an integer, a rule of durations a
duration or the text of one; anything else is a fault.

* `Rule.target` is the value as the rule compares it, `Rule.matches` the comparison.
* `Rule.equals` compares two rules, and refuses what is no rule.
-/

namespace TieredTerms

namespace Rule

/-- The value as a rule of this kind compares it. -/
def target [StandIns] (kind : Kind) (v : Value) : Except Fault Target := do
  match kind with
  | .category =>
    match v.asCategory? with
    | some n => return .category n
    | none => throw (.categoryMatch (← givenText v))
  | .duration =>
    match v.asText?, v.asDuration? with
    | some text, _ => return .duration (← parseDuration v text)
    | none, some d => return .duration d
    | none, none => throw (.durationMatch (← givenText v))

/-- Whether the rule holds for a value. -/
def holdsFor [StandIns] (r : Rule) (v : Value) : Except Fault Bool := do
  return r.interval.holds (← target r.kind v)

/-- Whether two rules are equal, as a fault where a projection is not finite. -/
def equalTo (a b : Rule) : Except Fault Bool :=
  (a.equal b).mapError .notFinite

/-- Whether a rule equals a value, which has to be a rule. -/
def equals (r : Rule) (v : Value) : Except Fault Bool :=
  match v with
  | .rule s => r.equalTo s
  | _ => .error (.ruleComparison v.typeName)

/-- Whether a rule equals a value; what is no rule is different. -/
def equalsAny (r : Rule) (v : Value) : Except Fault Bool :=
  match v with
  | .rule s => r.equalTo s
  | _ => .ok false

/-- The modulus under which numbers are hashed. -/
def hashModulus : Int := Nat.pow 2 61 - 1

/-- The key with its numbers reduced to what their hash depends on. -/
def hashKey (r : Rule) : Except Fault RuleKey := do
  let key ← r.key.mapError .notFinite
  return { key with
    lower := key.lower.tmod hashModulus
    upper := key.upper.tmod hashModulus
    result := key.result.tmod hashModulus }

/-- Whether two rules have the same hash. -/
def sameHash (a b : Rule) : Except Fault Bool := do
  let first ← a.hashKey
  let second ← b.hashKey
  return first == second

end Rule

end TieredTerms
