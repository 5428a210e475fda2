import TieredTerms.Datum
import TieredTerms.RuleTable.Basic
import TieredTerms.Text.Quoted

/-!
# Values

What a caller may hand to the library: numbers, texts and containers as they come from documents,
and durations, kinds, rules and tables besides.  Whether a value fits is checked where it is
used, and a message about one that does not fit shows its type and its form.

* `Value.typeName` is the name of the type in messages.
* `Value.shown` is the form in messages, or the reason why there is none: a whole number is too long
  to be written, the years or months of a rule are too large for it, or a container stands inside
  too many others.
-/

namespace TieredTerms

/-- A value of any type. -/
inductive Value where
  | none
  | bool (b : Bool)
  | int (n : Int)
  | real (x : Binary64)
  | text (s : String)
  | list (items : List Value)
  | tuple (items : List Value)
  | dict (fields : List (String × Value))
  | duration (d : Duration)
  | kind (k : Kind)
  | rule (r : Rule)
  | table (t : RuleTable)
  deriving Inhabited

/-- Why a value has no form in messages. -/
inductive Unshown where
  | numberTooLong
  | decimalTooLarge
  | tooDeep
  deriving DecidableEq

/-- A form, unless there is a reason why there is none. -/
def shownUnless (unshown? : Option Unshown) (shown : String) : Except Unshown String :=
  match unshown? with
  | none => .ok shown
  | some reason => .error reason

/-- A form that there is unless a whole number is too long. -/
def shownNumbers (shown? : Option String) : Except Unshown String :=
  match shown? with
  | some shown => .ok shown
  | none => .error .numberTooLong

/-- The text of a whole number of at most `digitLimit` digits. -/
def intShown? (n : Int) : Option String :=
  if n.natAbs < Nat.pow 10 digitLimit then some (intText n) else none

/-- Doubles in messages: positional from `1e-4` to below `1e16`. -/
def shownReal : FloatLayout :=
  { leastPoint := -4, mostPoint := 16, plusSign := true, exponentWidth := 2
    infinity := "inf", nan := "nan" }

namespace Clock

/-- A clock duration in messages: the parts that are not zero. -/
def shown (c : Clock) : String :=
  let parts := [("days", c.days), ("seconds", c.secondsOfDay), ("microseconds", c.microsOfSecond)]
  let written := (parts.filter fun part => part.2 != 0).map fun part =>
    part.1 ++ "=" ++ intText part.2
  "datetime.timedelta(" ++ (if written.isEmpty then "0" else ", ".intercalate written) ++ ")"

end Clock

namespace Duration

/-- A duration in messages.  Years and months are shown without their fractions. -/
def shown? : Duration → Option String
  | .clock time => some time.shown
  | .calendar years months time => do
    let years ← intShown? years.truncate
    let months ← intShown? months.truncate
    let parts := [intText time.days, intText time.secondsOfDay, intText time.microsOfSecond,
      "years=" ++ years, "months=" ++ months]
    return "isodate.duration.Duration(" ++ ", ".intercalate parts ++ ")"

end Duration

/-- A kind in messages. -/
def Kind.shown [StandIns] (k : Kind) : String :=
  "<Kind." ++ k.label ++ ": " ++ quoted k.tagText ++ ">"

/-- Whether the bounds of an interval are durations or whole numbers that can be written. -/
def Interval.hasShortNumbers : Interval → Bool
  | .category lower upper .. => lower < Nat.pow 10 digitLimit && upper < Nat.pow 10 digitLimit
  | .duration .. => true

/-- Why a rule has no form in messages, if it has none. -/
def Rule.unshown? (r : Rule) : Option Unshown :=
  if !r.interval.hasShortNumbers then some .numberTooLong
  else if r.isWritable then none
  else some .decimalTooLarge

/-- A rule in messages, if it has a form. -/
def Rule.shown [StandIns] (r : Rule) : String :=
  let id := match r.id with
    | some id => quoted id
    | none => "None"
  "ConditionalPeriod(" ++ quoted r.compact ++ ", id=" ++ id ++ ")"

/-- Why a table has no form in messages, if it has none. -/
def RuleTable.unshown? (t : RuleTable) : Option Unshown :=
  t.rules.findSome? Rule.unshown?

/-- A table in messages, if it has a form. -/
def RuleTable.shown [StandIns] (t : RuleTable) : String :=
  "ConditionalCollection(" ++ quoted t.compact ++ ")"

namespace Value

/-- The name of the value's type in messages. -/
def typeName : Value → String
  | .none => "NoneType"
  | .bool _ => "bool"
  | .int _ => "int"
  | .real _ => "float"
  | .text _ => "str"
  | .list _ => "list"
  | .tuple _ => "tuple"
  | .dict _ => "dict"
  | .duration (.clock _) => "timedelta"
  | .duration (.calendar ..) => "Duration"
  | .kind _ => "Kind"
  | .rule _ => "ConditionalPeriod"
  | .table _ => "ConditionalCollection"

/-- The name of the value's type with what it belongs to, for clock durations alone. -/
def fullTypeName : Value → String
  | .duration (.clock _) => "datetime.timedelta"
  | v => v.typeName

/-- How many containers may stand inside each other where a value is shown. -/
def depthLimit : Nat := 980

/-- What is shown inside of a container, which counts for the depth. -/
def insideOf {α : Type} (depth : Nat) (shown : Nat → Except Unshown α) : Except Unshown α :=
  match depth with
  | 0 => .error .tooDeep
  | depth + 1 => shown depth

mutual

/-- The form of the value in messages, where so many containers may stand inside each other. -/
def shownIn [StandIns] (depth : Nat) : Value → Except Unshown String
  | .none => .ok "None"
  | .bool b => .ok (if b then "True" else "False")
  | .int n => shownNumbers (intShown? n)
  | .real x => .ok (shownReal.write x)
  | .text s => .ok (quoted s)
  | .list items => do
    let shown ← insideOf depth fun depth => shownItems depth items
    return "[" ++ ", ".intercalate shown ++ "]"
  | .tuple items => do
    match ← insideOf depth fun depth => shownItems depth items with
    | [item] => return "(" ++ item ++ ",)"
    | shown => return "(" ++ ", ".intercalate shown ++ ")"
  | .dict fields => do
    let shown ← insideOf depth fun depth => shownFields depth fields
    return "\x7b" ++ ", ".intercalate shown ++ "\x7d"
  | .duration d => shownNumbers d.shown?
  | .kind k => .ok k.shown
  | .rule r => shownUnless r.unshown? r.shown
  | .table t => shownUnless t.unshown? t.shown

/-- The forms of the items. -/
def shownItems [StandIns] (depth : Nat) : List Value → Except Unshown (List String)
  | [] => .ok []
  | item :: items => do
    let shown ← shownIn depth item
    return shown :: (← shownItems depth items)

/-- The forms of the fields. -/
def shownFields [StandIns] (depth : Nat) : List (String × Value) → Except Unshown (List String)
  | [] => .ok []
  | (name, value) :: fields => do
    let shown ← shownIn depth value
    return (quoted name ++ ": " ++ shown) :: (← shownFields depth fields)

end

/-- The form of the value in messages. -/
def shown [StandIns] (v : Value) : Except Unshown String :=
  v.shownIn depthLimit

/-- The form of the value in messages, if it has one. -/
def shown? [StandIns] (v : Value) : Option String :=
  v.shown.toOption

section Shown

variable [StandIns]

@[simp] theorem shown_int (n : Int) : (int n).shown = shownNumbers (intShown? n) := by
  rw [shown, shownIn]

@[simp] theorem shown_text (s : String) : (text s).shown = .ok (quoted s) := by
  rw [shown, shownIn]

@[simp] theorem shown_duration (d : Duration) : (duration d).shown = shownNumbers d.shown? := by
  rw [shown, shownIn]

@[simp] theorem shown_rule (r : Rule) : (rule r).shown = shownUnless r.unshown? r.shown := by
  rw [shown, shownIn]

end Shown

/-- The text that a value is or stands for: a kind stands for its letter. -/
def asText? : Value → Option String
  | .text s => some s
  | .kind k => some k.tagText
  | _ => Option.none

/-- The form of a value that is or stands for a text. -/
def textShown [StandIns] (v : Value) (s : String) : String :=
  match v with
  | .kind k => k.shown
  | _ => quoted s

/-- The integer that a value is; truth values are none. -/
def asCategory? : Value → Option Int
  | .int n => some n
  | _ => Option.none

/-- The integer that a value is as an index; truth values are zero and one. -/
def asIndex? : Value → Option Int
  | .int n => some n
  | .bool b => some (if b then 1 else 0)
  | _ => Option.none

/-- The duration that a value is. -/
def asDuration? : Value → Option Duration
  | .duration d => some d
  | _ => Option.none

/-- Whether a value counts as true: it is not empty, not zero and not false.  A calendar duration
always does. -/
def isTruthy : Value → Bool
  | .none => false
  | .bool b => b
  | .int n => n != 0
  | .real x => !x.same (Binary64.zero false)
  | .text s => s != ""
  | .list items | .tuple items => !items.isEmpty
  | .dict fields => !fields.isEmpty
  | .duration (.clock time) => time.micros != 0
  | .duration (.calendar ..) | .kind _ | .rule _ => true
  | .table t => !t.rules.isEmpty

/-- Whether a value can be compared as a category. -/
def isCategory (v : Value) : Bool :=
  v.asCategory?.isSome

/-- Whether a value is a duration. -/
def isDuration (v : Value) : Bool :=
  v.asDuration?.isSome

mutual

/-- The value of a document. -/
def ofDatum : Datum → Value
  | .null => .none
  | .bool b => .bool b
  | .int n => .int n
  | .real x => .real x
  | .text s => .text s
  | .moment written => .text written
  | .array items => .list (ofItems items)
  | .object fields => .dict (ofFields fields)

/-- The values of the items. -/
def ofItems : List Datum → List Value
  | [] => []
  | item :: items => ofDatum item :: ofItems items

/-- The values of the fields. -/
def ofFields : List (String × Datum) → List (String × Value)
  | [] => []
  | (name, value) :: fields => (name, ofDatum value) :: ofFields fields

end

/-- The value as a text of its own: a text is itself, anything else has its form in messages. -/
def plain? [StandIns] (v : Value) : Option String :=
  match v.asText? with
  | some s => some s
  | Option.none => v.shown?

end Value

/-- The value of a document as a text of its own. -/
def Datum.plain [StandIns] (d : Datum) : String :=
  ((Value.ofDatum d).plain?).getD ""

end TieredTerms
