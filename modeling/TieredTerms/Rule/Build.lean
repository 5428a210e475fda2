import TieredTerms.Duration.Reader
import TieredTerms.Rule.Tokens

/-!
# Building rules

A rule is built from four values: a kind, two bounds and a result.  They are checked in this order
and the first that does not fit is the fault: the kind, the lower bound, the upper bound, the
order of the bounds, the result.

* `Rule.build` is the construction, `Rule.ofArguments` the same for a list of values.
* `Rule.parse` builds a rule from its compact form.
* `Rule.clone` builds a rule anew from its own parts.
-/

namespace TieredTerms

/-- The fault of a value that a message cannot show. -/
def Unshown.fault : Unshown → Fault
  | .numberTooLong => .numberTooLong
  | .decimalTooLarge => .decimalTooLarge
  | .tooDeep => .shownTooDeep

/-- A value with its type, for a message. -/
def givenText [StandIns] (v : Value) : Except Fault String :=
  match v.shown with
  | .ok shown => .ok ("(" ++ v.typeName ++ ") " ++ shown)
  | .error reason => .error reason.fault

/-- The duration of a value that is or stands for a text. -/
def parseDuration [StandIns] (v : Value) (text : String) : Except Fault Duration :=
  match Duration.read text with
  | .ok d => .ok d
  | .error .form => .error (.durationText (v.textShown text))
  | .error .tooLarge => .error .decimalTooLarge

/-- A duration that is not below zero. -/
abbrev BoundDuration := { d : Duration // d.isNegative = false }

/-- The duration that the named argument gives: a duration or the text of one, not below zero.
The value is described first, since every fault shows it. -/
def durationArgument [StandIns] (ordinal : String) (v : Value) : Except Fault BoundDuration := do
  let given ← givenText v
  let candidate : Except Duration.ReadFault Duration :=
    match v.asDuration?, v.asText? with
    | some d, _ => .ok d
    | none, some text => Duration.read text
    | none, none => .error .form
  match candidate with
  | .error .tooLarge => throw .decimalTooLarge
  | .error .form => throw (.durationArgument ordinal given)
  | .ok d =>
    if h : d.isNegative = false then return ⟨d, h⟩
    else throw (.durationArgument ordinal given)

namespace Rule

/-- The kind that the first argument gives. -/
def kindArgument [StandIns] (v : Value) : Except Fault Kind := do
  match v with
  | .kind kind => return kind
  | .text text =>
    match Kind.ofTag? text with
    | some kind => return kind
    | none => throw (.kindArgument (← givenText v))
  | _ => throw (.kindArgument (← givenText v))

/-- The lower bound of a category rule. -/
def lowerCategory [StandIns] (v : Value) : Except Fault { n : Nat // 0 < n } := do
  match v.asCategory? with
  | some n =>
    if h : 0 < n.toNat then return ⟨n.toNat, h⟩ else throw (.lowerArgument (← givenText v))
  | none => throw (.lowerArgument (← givenText v))

/-- The upper bound of a category rule; zero is none. -/
def upperCategory [StandIns] (v : Value) : Except Fault Nat := do
  match v.asCategory? with
  | some n => if 0 ≤ n then return n.toNat else throw (.upperArgument (← givenText v))
  | none => throw (.upperArgument (← givenText v))

/-- The interval of two bounds. -/
def intervalOf [StandIns] (kind : Kind) (lower upper : Value) : Except Fault Interval := do
  match kind with
  | .category =>
    let ⟨lower, lower_pos⟩ ← lowerCategory lower
    let upper ← upperCategory upper
    if h : upper = 0 ∨ lower ≤ upper then return .category lower upper lower_pos h
    else throw (.boundsOrder (natText lower) (natText upper))
  | .duration =>
    let ⟨lower, lower_valid⟩ ← durationArgument "second" lower
    let ⟨upper, upper_valid⟩ ← durationArgument "third" upper
    if h : upper.isZero = true ∨ upper.below lower = false then
      return .duration lower upper lower_valid upper_valid h
    else throw (.boundsOrder (← lower.written) (← upper.written))

/-- The rule of four values, with the given id. -/
def build [StandIns] (id : Option String) (kind lower upper result : Value) :
    Except Fault Rule := do
  let kind ← kindArgument kind
  let interval ← intervalOf kind lower upper
  let ⟨result, result_valid⟩ ← durationArgument "fourth" result
  return { interval, result, id, result_valid }

/-- The rule of a list of values, of which there have to be four. -/
def ofArguments [StandIns] (id : Option String) : List Value → Except Fault Rule
  | [kind, lower, upper, result] => build id kind lower upper result
  | arguments => .error (.argumentCount arguments.length)

/-- The rule of the pieces of a compact form. -/
def ofTokens [StandIns] (id : Option String) (t : RuleTokens) : Except Fault Rule :=
  build id (.text t.kind) t.lower.toValue t.upper.toValue (.text t.result)

/-- The rule of a compact form. -/
def parse [StandIns] (id : Option String) (text : String) : Except Fault Rule := do
  ofTokens id (← RuleTokens.ofText text)

/-- The lower bound as an argument of the construction. -/
def lowerValue (r : Rule) : Value :=
  match r.interval with
  | .category lower .. => .int lower
  | .duration lower .. => .duration lower

/-- The upper bound as an argument of the construction. -/
def upperValue (r : Rule) : Value :=
  match r.interval with
  | .category _ upper .. => .int upper
  | .duration _ upper .. => .duration upper

/-- The rule built anew from its own parts, with the given id. -/
def clone [StandIns] (id : Option String) (r : Rule) : Except Fault Rule :=
  build id (.kind r.kind) r.lowerValue r.upperValue (.duration r.result)

end Rule

end TieredTerms
