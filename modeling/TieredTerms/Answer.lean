import TieredTerms.Checked
import TieredTerms.Fault
import TieredTerms.Value

/-!
# Answers

The answer to an inquiry: data where it succeeded, a failure with a code where it did not, and
warnings about findings that are no failure.

* `Answer.success` and `Answer.failure` build the two sorts.
* `Answer.toDatum` is the answer as a document, `Answer.ofFields` the answer of a document.
-/

namespace TieredTerms

/-- Why an inquiry failed: the code of the cause, its words, and what was asked. -/
structure Failure where
  code : String
  message : String
  detail : Fields

/-- The answer to an inquiry. -/
structure Answer where
  ok : Bool
  op : String
  data : Fields
  warnings : List String
  error : Option Failure

namespace Answer

/-- The answer of an inquiry that succeeded. -/
def success (op : String) (data : Fields) (warnings : List String) : Answer :=
  { ok := true, op, data, warnings, error := none }

/-- The answer of an inquiry that failed with a code. -/
def failed (op code message : String) (detail : Fields) : Answer :=
  { ok := false, op, data := [], warnings := [], error := some { code, message, detail } }

/-- The answer of an inquiry that failed. -/
def failure (op : String) (fault : Fault) (detail : Fields) : Answer :=
  failed op fault.faultClass.code fault.message detail

/-- The failure as a document. -/
def failureDatum (f : Failure) : Datum :=
  .object [("code", .text f.code), ("message", .text f.message), ("detail", .object f.detail)]

/-- The answer as a document. -/
def toDatum (a : Answer) : Datum :=
  .object
    [("ok", .bool a.ok), ("op", .text a.op), ("data", .object a.data),
     ("warnings", .array (a.warnings.map .text)),
     ("error", (a.error.map failureDatum).getD .null)]

/-- The failure of a document; null is none. -/
def readFailure (d : Datum) : Checked (Option Failure) :=
  match d with
  | .null => .ok none
  | .object fields => do
    let (code, message, detail) ←
      Checked.both (Checked.required fields "code" readText)
        (Checked.both (Checked.required fields "message" readText)
          (Checked.field fields "detail" [] readFields))
    return some { code, message, detail }
  | _ => Checked.problem (.noSection "ServiceError")

/-- The answer of the fields of a document.  Data, warnings and a failure may be missing. -/
def ofFields (fields : Fields) : Checked Answer := do
  let (ok, op, data, warnings, error) ←
    Checked.both (Checked.required fields "ok" readTruth)
      (Checked.both (Checked.required fields "op" readText)
        (Checked.both (Checked.field fields "data" [] readFields)
          (Checked.both (Checked.field fields "warnings" [] readTexts)
            (Checked.field fields "error" none readFailure))))
  return { ok, op, data, warnings, error }

end Answer

/-- A rule with its index as the fields of a document. -/
def Rule.describe (r : Rule) (index : Datum) : Fields :=
  let (lower, upper) : Datum × Datum :=
    match r.interval with
    | .category lower upper .. => (.int lower, .int upper)
    | .duration lower upper .. => (.text lower.format, .text upper.format)
  [("index", index), ("id", (r.id.map .text).getD .null), ("kind", .text r.kind.word),
   ("lower", lower), ("upper", upper), ("unbounded", .bool r.isUnbounded),
   ("result", .text r.result.format), ("period", .text r.compact)]

end TieredTerms
