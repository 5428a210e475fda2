import TieredTerms.Json.Reader
import TieredTerms.Rule.Basic

/-!
# Faults

Everything that can be wrong with what a caller hands in.  A fault is a cause with the data that
its message needs; the wording is in `Fault.message` alone.

* `FaultClass` sorts the causes, `FaultClass.isReported` tells which of them an inquiry answers
  with a report.  The others are faults of numbers that are too large to be written or counted.
* `Duration.written` is the written form of a duration with the fault of a number that is too large
  for one.
-/

namespace TieredTerms

/-- What a caller handed in wrongly.  A `given` is a value with its type as messages show it. -/
inductive Fault where
  /-- A text that is no duration, as messages show it. -/
  | durationText (shown : String)
  /-- The first argument of a rule is no kind. -/
  | kindArgument (given : String)
  /-- The lower bound of a category rule is no positive integer. -/
  | lowerArgument (given : String)
  /-- The upper bound of a category rule is no natural number. -/
  | upperArgument (given : String)
  /-- An argument is no duration, or a negative one. -/
  | durationArgument (ordinal : String) (given : String)
  /-- The upper bound is below the lower one. -/
  | boundsOrder (lower upper : String)
  /-- A rule takes four arguments. -/
  | argumentCount (given : Nat)
  /-- A bound of a compact form has no end. -/
  | boundMissing (position : Nat) (text : String)
  /-- A compact form has no result. -/
  | resultMissing (text : String)
  /-- Only texts can be cut into tokens. -/
  | tokensOf (typeName : String)
  /-- A category rule is matched against integers. -/
  | categoryMatch (given : String)
  /-- A duration rule is matched against durations. -/
  | durationMatch (given : String)
  /-- A rule is compared to rules. -/
  | ruleComparison (typeName : String)
  /-- A table is compared to tables. -/
  | tableComparison (typeName : String)
  /-- A table stores rules. -/
  | stored (typeName : String)
  /-- A table stores rules of one kind. -/
  | kindMismatch (expected given : Kind)
  /-- The compact form of a table is a text. -/
  | tableText (typeName : String)
  /-- A table is built from a list. -/
  | tableItems (typeName : String)
  /-- A table is built from a list of rules. -/
  | tableItem (typeName : String) (position : Nat)
  /-- The JSON form of a table is a text. -/
  | tableJson (typeName : String)
  /-- Only integers and durations are looked up. -/
  | lookupValue (typeName : String)
  /-- A text is no JSON. -/
  | json (fault : Json.Malformed)
  /-- There are no rules to work with. -/
  | noRules
  /-- A whole number has too many digits to be read. -/
  | tooManyDigits (count : Nat)
  /-- A whole number has too many digits to be written. -/
  | numberTooLong
  /-- A document has a container inside too many others. -/
  | tooDeep (container : Json.Container)
  /-- A value to be shown has a container inside too many others. -/
  | shownTooDeep
  /-- A projection has no whole milliseconds. -/
  | notFinite (reason : NotFinite)
  /-- A text is no decimal number. -/
  | decimalText (fault : Decimal.TextFault)
  /-- A decimal number is too large to be written. -/
  | decimalTooLarge
  /-- A clock duration is out of range. -/
  | daysOutOfRange (days : Int)
  /-- Only integers are indices. -/
  | indexType (typeName : String)
  /-- An index is beyond the end of a table. -/
  | indexOutOfRange
  /-- An index has more bits than indices have. -/
  | indexTooLarge
  /-- A rule is put in at an integer. -/
  | placeType (typeName : String)
  /-- The index to put a rule in at has more bits than indices have. -/
  | placeTooLarge
  deriving DecidableEq

/-- The classes of faults. -/
inductive FaultClass where
  | validation
  | format
  | type
  | json
  | noRules
  | number
  | overflow
  | decimalText
  | decimalRange
  | depth
  | index
  deriving DecidableEq

namespace FaultClass

/-- Whether an inquiry answers a fault of this class with a report. -/
def isReported : FaultClass → Bool
  | .validation | .format | .type | .json | .noRules => true
  | .number | .overflow | .decimalText | .decimalRange | .depth
  | .index => false

/-- The code of the class in reports. -/
def code : FaultClass → String
  | .noRules => "NO_RULES"
  | .format => "FORMAT_ERROR"
  | .validation => "VALIDATION_ERROR"
  | .json => "JSON_ERROR"
  | .type | .number | .overflow | .decimalText | .decimalRange | .depth | .index =>
    "TYPE_ERROR"

theorem code_eq_noRules {c : FaultClass} : c.code = "NO_RULES" ↔ c = .noRules := by
  cases c <;> simp [code]

theorem code_eq_json {c : FaultClass} : c.code = "JSON_ERROR" ↔ c = .json := by
  cases c <;> simp [code]

end FaultClass

namespace Fault

/-- The class of a fault. -/
def faultClass : Fault → FaultClass
  | .durationText _ | .kindArgument _ | .lowerArgument _ | .upperArgument _
  | .durationArgument .. | .boundsOrder .. | .argumentCount _ => .validation
  | .boundMissing .. | .resultMissing _ => .format
  | .tokensOf _ | .categoryMatch _ | .durationMatch _ | .ruleComparison _ | .tableComparison _
  | .stored _ | .kindMismatch .. | .tableText _ | .tableItems _ | .tableItem .. | .tableJson _
  | .lookupValue _ | .indexType _ | .placeType _ => .type
  | .json _ => .json
  | .noRules => .noRules
  | .tooManyDigits _ | .numberTooLong | .notFinite .nan => .number
  | .notFinite .infinity | .daysOutOfRange _ | .placeTooLarge => .overflow
  | .tooDeep _ | .shownTooDeep => .depth
  | .decimalText _ => .decimalText
  | .decimalTooLarge => .decimalRange
  | .indexOutOfRange | .indexTooLarge => .index

/-- The words for a whole number beyond the digits that are read or written. -/
def digitLimitText (detail : String) : String :=
  "Exceeds the limit (4300 digits) for integer string conversion" ++ detail ++
    "; use sys.set_int_max_str_digits() to increase the limit"

/-- The words for a fault. -/
def message : Fault → String
  | .durationText shown => "Invalid ISO 8601 duration: " ++ shown
  | .kindArgument given =>
    "The first argument must be one of the Kind constants " ++
      "(Kind.CATEGORY or Kind.DURATION). Input was: " ++ given
  | .lowerArgument given =>
    "The second argument must be a valid category (non null, positive integer). Input was: " ++
      given
  | .upperArgument given =>
    "The third argument must be a valid category " ++
      "(positive integer, or 0 for no upper bound). Input was: " ++ given
  | .durationArgument ordinal given =>
    "The " ++ ordinal ++ " argument must be a valid duration, or an ISO 8601 duration string. " ++
      "Input was: " ++ given
  | .boundsOrder lower upper =>
    "The third argument must be greater than or equal to lower. lower was (" ++ lower ++
      ") and upper was (" ++ upper ++ ")"
  | .argumentCount given =>
    "ConditionalPeriod must be instantiated with 4 arguments. " ++ natText given ++ " given."
  | .boundMissing position text =>
    "Invalid string format: Can't find argument " ++ natText position ++ ". Given: " ++ text
  | .resultMissing text => "Invalid string format: Can't find result. Given: " ++ text
  | .tokensOf typeName =>
    "Argument passed to parse_to_array() must be a string, " ++ typeName ++ " given."
  | .categoryMatch given =>
    "Only integers can be matched against a category period. Given: " ++ given
  | .durationMatch given =>
    "Only durations (as object or ISO 8601 string) can be matched against a duration period. " ++
      "Given: " ++ given
  | .ruleComparison typeName =>
    "Only a ConditionalPeriod can be compared to a ConditionalPeriod. Given: " ++ typeName
  | .tableComparison typeName =>
    "Only a ConditionalCollection can be compared to a ConditionalCollection. Given: " ++ typeName
  | .stored typeName =>
    "Only ConditionalPeriod (as object or string form) can be stored. Given: " ++ typeName
  | .kindMismatch expected given =>
    "The ConditionalPeriod set must have the same kind as all the periods stored. " ++
      "Expected: Kind." ++ expected.label ++ ", given: Kind." ++ given.label
  | .tableText typeName =>
    "First argument of parse() must be a string. " ++ typeName ++ " given."
  | .tableItems typeName =>
    "First argument of from_array() must be a list. " ++ typeName ++ " given."
  | .tableItem typeName position =>
    "First argument of from_array() must only contain ConditionalPeriod or its string form. " ++
      typeName ++ " given at position " ++ natText position ++ "."
  | .tableJson typeName =>
    "First argument of from_json() must be a string. " ++ typeName ++ " given."
  | .lookupValue typeName =>
    "Only durations (as object or ISO 8601 string) or integers can be found. Given: " ++ typeName
  | .json fault => fault.message
  | .noRules => "No rules given and no [rules] table configured"
  | .tooManyDigits count => digitLimitText (": value has " ++ natText count ++ " digits")
  | .numberTooLong => digitLimitText ""
  | .tooDeep container =>
    "maximum recursion depth exceeded while decoding a JSON " ++ container.word ++
      " from a unicode string"
  | .shownTooDeep => "maximum recursion depth exceeded while getting the repr of an object"
  | .notFinite .infinity => "cannot convert float infinity to integer"
  | .notFinite .nan => "cannot convert float NaN to integer"
  | .decimalText .form => "[<class 'decimal.ConversionSyntax'>]"
  | .decimalText .exponent => "[<class 'decimal.InvalidOperation'>]"
  | .decimalTooLarge => "[<class 'decimal.Overflow'>]"
  | .daysOutOfRange days =>
    if -(Nat.pow 2 31 : Int) ≤ days ∧ days < Nat.pow 2 31 then
      "days=" ++ intText days ++ "; must have magnitude <= 999999999"
    else "Python int too large to convert to C int"
  | .indexType typeName => "list indices must be integers or slices, not " ++ typeName
  | .indexOutOfRange => "list index out of range"
  | .indexTooLarge => "cannot fit 'int' into an index-sized integer"
  | .placeType typeName => "'" ++ typeName ++ "' object cannot be interpreted as an integer"
  | .placeTooLarge => "Python int too large to convert to C ssize_t"

end Fault

/-- The written form of a duration, a fault where it cannot be written. -/
def Duration.written (d : Duration) : Except Fault String :=
  if d.isWritable then .ok d.format else .error .decimalTooLarge

end TieredTerms
