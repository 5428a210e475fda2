import TieredTerms.Answer
import TieredTerms.Json.Writer
import TieredTerms.Screen.Table
import TieredTerms.Text.Markup
import TieredTerms.Value.Layout

/-!
# Reports

The text that an answer is shown as: for people, laid out for a screen, or for programs, as an
indented JSON document.

* `Report.text` is the first, `Report.json` the second, `Report.format` the choice of the two.
* Answers of the four questions have a layout each; any other is shown field by field.
* `ReportFault` tells why an answer cannot be shown: its rules are no rules, a text that is shown
  in the table of rules is not marked up well, or a text of the document has lone units.
-/

namespace TieredTerms

/-- How answers are shown. -/
structure ReportMode where
  json : Bool
  verbose : Bool

/-- Why an answer cannot be shown. -/
inductive ReportFault where
  /-- The rules are no list. -/
  | noItems (typeName : String)
  /-- A rule has no fields. -/
  | noFields (typeName : String)
  /-- A text is not marked up well. -/
  | markup (fault : MarkupFault)
  /-- A text has lone units, which no encoding takes. -/
  | loneUnits (row : LoneRow)

/-- The words for lone units, which are told by the first of them and their places. -/
def LoneRow.message (r : LoneRow) : String :=
  let what :=
    if r.count = 1 then
      "character '" ++ String.ofList (codePointEscape r.unit) ++ "' in position " ++ natText r.place
    else
      "characters in position " ++ natText r.place ++ "-" ++ natText (r.place + r.count - 1)
  "Error serializing to JSON: UnicodeEncodeError: 'utf-8' codec can't encode " ++ what ++
    ": surrogates not allowed"

/-- The words for a fault. -/
def ReportFault.message : ReportFault → String
  | .noItems typeName => "'" ++ typeName ++ "' object is not iterable"
  | .noFields typeName => "'" ++ typeName ++ "' object has no attribute 'get'"
  | .markup fault => fault.message
  | .loneUnits row => row.message

namespace Report

/-- A value of a field: lists and objects in JSON, except under the names that hold a plain text
by their meaning. -/
def fieldValue [StandIns] (name : String) (d : Datum) : String :=
  if ["id", "period", "result", "kind"].contains name then d.plain
  else
    match d with
    | .array _ | .object _ => Json.tightText d
    | d => d.plain

/-- A text wrapped to the screen. -/
def line (text : String) : List Char :=
  Screen.wrapped Screen.defaultWidth text

/-- A field on lines of its own. -/
def field [StandIns] (name : String) (d : Datum) : List Char :=
  line ("  " ++ name ++ ": " ++ fieldValue name d)

/-- The field of an answer's data, null where it is missing. -/
def dataField [StandIns] (data : Fields) (name : String) : List Char :=
  field name ((Fields.get? data name).getD .null)

/-- Whether a value of a document counts as true. -/
def isTruthy (d : Datum) : Bool :=
  (Value.ofDatum d).isTruthy

/-- The line about success. -/
def statusLine (op : String) : List Char :=
  line ("OK  " ++ op)

/-- The answer of a look-up. -/
def findLines [StandIns] (verbose : Bool) (data : Fields) : List Char :=
  if isTruthy ((Fields.get? data "matched").getD .null) then
    let names := ["value", "period", "index", "result"] ++
      if verbose then ["kind", "lower", "upper", "id"] else []
    names.flatMap (dataField data)
  else dataField data "value" ++ field "matched" (.bool false)

/-- A field of a rule as a text, empty where it is missing. -/
def cell [StandIns] (rule : Fields) (name : String) : String :=
  ((Fields.get? rule name).map Datum.plain).getD ""

/-- The upper bound of a rule as a text. -/
def upperCell [StandIns] (rule : Fields) : String :=
  if isTruthy ((Fields.get? rule "unbounded").getD .null) then "∞" else cell rule "upper"

/-- The id of a rule as a text. -/
def idCell [StandIns] (rule : Fields) : String :=
  let id := (Fields.get? rule "id").getD .null
  if isTruthy id then id.plain else ""

/-- A column of texts that may be marked up. -/
def markedColumn (header : String) (atRight wraps : Bool) (texts : List String) :
    Except ReportFault Column := do
  return ⟨header, atRight, wraps, ← (texts.mapM unmarked).mapError .markup⟩

/-- The table of rules.  The kinds are shown as they are, all other texts as marked up ones. -/
def ruleTable [StandIns] (verbose : Bool) (rules : List Fields) : Except ReportFault BoxTable := do
  let numbers ← markedColumn "#" true true (rules.map (cell · "index"))
  let kinds : Column := ⟨"Kind", false, true, rules.map (cell · "kind")⟩
  let lowers ← markedColumn "Lower" true true (rules.map (cell · "lower"))
  let uppers ← markedColumn "Upper" true true (rules.map upperCell)
  let results ← markedColumn "Result" false true (rules.map (cell · "result"))
  let ids ← if verbose then [markedColumn "ID" false false (rules.map idCell)].mapM id else pure []
  return ⟨[numbers, kinds, lowers, uppers, results] ++ ids⟩

/-- The items that a value of a document is gone through by: those of a list, the names of an
object, and the characters of a text. -/
def itemsOf : Datum → Except ReportFault (List Datum)
  | .array items => .ok items
  | .object fields => .ok (fields.map fun field => .text field.1)
  | .text s => .ok (s.toList.map fun c => .text (String.singleton c))
  | d => .error (.noItems (Value.ofDatum d).typeName)

/-- The fields of a rule. -/
def ruleFields : Datum → Except ReportFault Fields
  | .object fields => .ok fields
  | d => .error (.noFields (Value.ofDatum d).typeName)

/-- The answer with all rules. -/
def showLines [StandIns] (verbose : Bool) (data : Fields) : Except ReportFault (List Char) := do
  let periods := (Fields.get? data "periods").getD (.array [])
  if isTruthy periods then
    let rules ← (← itemsOf periods).mapM ruleFields
    return Screen.ofLines ((← ruleTable verbose rules).drawn Screen.defaultWidth)
  else return line "  (no periods)"

/-- The answer of a conversion: the written form alone, so that it can be passed on.  A list or an
object is laid out over several lines where it is too wide for one. -/
def convertLines [StandIns] (data : Fields) : List Char :=
  match Fields.get? data "output" with
  | none => Screen.raw ""
  | some (.text s) => Screen.raw (String.ofList (withEmoji s.toList))
  | some d => ((Value.ofDatum d).laidOut Screen.defaultWidth).flatMap Screen.raw

/-- The lines of a successful answer. -/
def successLines [StandIns] (verbose : Bool) (a : Answer) : Except ReportFault (List Char) :=
  match a.op with
  | "find" => .ok (statusLine a.op ++ findLines verbose a.data)
  | "show" => do return statusLine a.op ++ (← showLines verbose a.data)
  | "convert" => .ok (convertLines a.data)
  | op => .ok (statusLine op ++ a.data.flatMap fun (name, value) => field name value)

/-- The lines of a failed answer. -/
def failureLines [StandIns] (verbose : Bool) (a : Answer) : List Char :=
  let message := (a.error.map Failure.message).getD "Unknown error"
  let details :=
    match a.error with
    | some failure =>
      if verbose then
        line ("  code: " ++ failure.code) ++ failure.detail.flatMap fun (name, value) =>
          line ("    " ++ name ++ ": " ++ value.plain)
      else []
    | none => []
  line ("ERROR  " ++ a.op ++ " - " ++ message) ++ details

/-- The report for people, without line ends at its end. -/
def text [StandIns] (verbose : Bool) (a : Answer) : Except ReportFault String := do
  let written ← if a.ok then successLines verbose a else pure (failureLines verbose a)
  return String.ofList (written.reverse.dropWhile (· == '\n')).reverse

/-- The first lone units of the texts of an answer. -/
def loneUnits? [StandIns] (a : Answer) : Option LoneRow :=
  a.toDatum.texts.findSome? fun s => loneRow? s.toList

/-- The report for programs.  An answer with lone units has none. -/
def json [StandIns] (a : Answer) : Except ReportFault String :=
  match loneUnits? a with
  | some row => .error (.loneUnits row)
  | none => .ok (Json.indentedText a.toDatum)

/-- The report in the given mode. -/
def format [StandIns] (mode : ReportMode) (a : Answer) : Except ReportFault String :=
  if mode.json then json a else text mode.verbose a

/-- The style that a kind is shown in, by name. -/
def kindStyle (word : String) : String :=
  if word = Kind.category.word then "cp.kind.category"
  else if word = Kind.duration.word then "cp.kind.duration"
  else ""

end Report

end TieredTerms
