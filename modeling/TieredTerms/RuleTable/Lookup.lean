import TieredTerms.RuleTable.Build

/-!
# Looking values up

A value is looked up in a table by asking its rules in order.  The first that holds is the
answer, with its place.

* `RuleTable.find` is the look-up, `RuleTable.firstMatch` its search.
* `RuleTable.equals` compares tables, `RuleTable.contains` asks for an equal rule.
-/

namespace TieredTerms.RuleTable

/-- A rule with its place in a table. -/
structure Found where
  index : Nat
  rule : Rule

/-- The first rule that holds for a value, where the first rule of the list is at `index`. -/
def firstMatch [StandIns] (v : Value) : Nat → List Rule → Except Fault (Option Found)
  | _, [] => .ok none
  | index, r :: rules => do
    if ← r.holdsFor v then return some ⟨index, r⟩
    firstMatch v (index + 1) rules

/-- The value that is looked up: an integer or a duration, which a text is read as. -/
def lookupValue [StandIns] (v : Value) : Except Fault Value := do
  match v.asText? with
  | some text => return .duration (← parseDuration v text)
  | none => if v.isCategory || v.isDuration then return v else throw (.lookupValue v.typeName)

/-- The first rule that holds for a value. -/
def find [StandIns] (t : RuleTable) (v : Value) : Except Fault (Option Found) := do
  firstMatch (← lookupValue v) 0 t.rules

/-- Whether two tables are equal, as a fault where a projection is not finite. -/
def equalTo (a b : RuleTable) : Except Fault Bool :=
  (a.equal b).mapError .notFinite

/-- Whether a table equals a value, which has to be a table. -/
def equals (t : RuleTable) (v : Value) : Except Fault Bool :=
  match v with
  | .table u => t.equalTo u
  | _ => .error (.tableComparison v.typeName)

/-- Whether a table equals a value; what is no table is different. -/
def equalsAny (t : RuleTable) (v : Value) : Except Fault Bool :=
  match v with
  | .table u => t.equalTo u
  | _ => .ok false

/-- Whether some rule of the list is or equals the given one.  The rules are asked in order. -/
def anyEqual (s : Rule) : List Rule → Except NotFinite Bool
  | [] => .ok false
  | r :: rules => do
    if ← r.sameOrEqual s then return true
    anyEqual s rules

/-- Whether a table holds a rule that is or equals a value. -/
def contains (t : RuleTable) (v : Value) : Except Fault Bool :=
  match v with
  | .rule s => (anyEqual s t.rules).mapError .notFinite
  | _ => .ok false

/-- The rule at a place; a negative place counts from the end. -/
def at? (t : RuleTable) (place : Int) : Option Rule :=
  let place := if place < 0 then t.size + place else place
  if place < 0 then none else t.rules[place.toNat]?

/-- The rule at an index, which has to be an integer. -/
def get (t : RuleTable) (index : Value) : Except Fault Rule :=
  match index.asIndex? with
  | none => .error (.indexType index.fullTypeName)
  | some n =>
    if isIndex n then
      match t.at? n with
      | some r => .ok r
      | none => .error .indexOutOfRange
    else .error .indexTooLarge

end TieredTerms.RuleTable
