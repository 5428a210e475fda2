import TieredTerms.Answer
import TieredTerms.Journal
import TieredTerms.RuleTable.Lookup

/-!
# Inquiries

What can be asked of a rule table: which rule holds for a value, whether the table is well
formed, what it looks like in its other written form, and which rules it has.  The table comes
with the inquiry, or else from the configuration.

* `Inquiry.answer` answers an inquiry.  A fault of what was handed in becomes an answer that
  tells of it; only a number that is too large to be read or written is a fault of the inquiry.
* `Inquiry.notes` are the debugging notes of the same run, in order.
-/

namespace TieredTerms

/-- What is asked. -/
inductive Question where
  /-- Which rule holds for the value. -/
  | find (value : String)
  /-- Whether the table is well formed. -/
  | check
  /-- What the table looks like in another written form. -/
  | convert (format : String)
  /-- Which rules the table has. -/
  | show

/-- The name of a question. -/
def Question.op : Question → String
  | .find _ => "find"
  | .check => "check"
  | .convert _ => "convert"
  | .show => "show"

/-- What a failed answer tells of the question. -/
def Question.detail : Question → Fields
  | .find value => [("value", .text value)]
  | _ => []

/-- A question with the table it is about: a written form, JSON or compact, or none for the
configured table, which is compact. -/
structure Inquiry where
  question : Question
  rules : Option String
  fromJson : Bool

/-- The value that a text is looked up as: an integer where it is written as one, else the text
itself; blanks around it do not count. -/
def parseLookup (text : String) : Except Fault Value :=
  let stripped := strip text
  match IntegerText.ofChars? stripped.toList with
  | some written =>
    if digitLimit < written.digits.length then .error (.tooManyDigits written.digits.length)
    else .ok (.int written.value)
  | none => .ok (.text stripped)

namespace Inquiry

/-- The written form of the table, and whether it is JSON.  An empty configured table is none. -/
def source (configured : String) (q : Inquiry) : Except Fault (String × Bool) :=
  match q.rules with
  | some rules => .ok (rules, q.fromJson)
  | none => if configured = "" then .error .noRules else .ok (configured, false)

/-- The table of the inquiry. -/
def load [StandIns] (ids : IdSource) (configured : String) (q : Inquiry) :
    Except Fault RuleTable := do
  let (text, json) ← q.source configured
  if json then RuleTable.parseJson ids text else RuleTable.parse ids text

/-- The value of a look-up; the other questions have none. -/
def lookup (q : Inquiry) : Except Fault Value :=
  match q.question with
  | .find value => parseLookup value
  | _ => .ok .none

/-- The answer of a look-up that found a rule or none. -/
def findAnswer (value : String) : Option RuleTable.Found → Answer
  | some found =>
    .success "find"
      ([("value", .text value), ("matched", .bool true)] ++
        found.rule.describe (.int found.index)) []
  | none =>
    .success "find" [("value", .text value), ("matched", .bool false)]
      ["No period matches " ++ value]

/-- The answer of a check. -/
def checkAnswer (q : Inquiry) (t : RuleTable) : Answer :=
  let canonical := t.compact
  let differs := match q.rules with
    | some rules => !q.fromJson && canonical != rules
    | none => false
  .success "check"
    [("kind", (t.kind?.map fun kind => .text kind.word).getD .null), ("count", .int t.size),
     ("canonical", .text canonical)]
    (if differs then ["Rule table is not in canonical form"] else [])

/-- The answer of a conversion. -/
def convertAnswer [StandIns] (format : String) (t : RuleTable) : Answer :=
  let output := if format = "json" then t.toJson else t.compact
  .success "convert" [("format", .text format), ("output", .text output)] []

/-- The rules of a table as documents. -/
def described (t : RuleTable) : List Datum :=
  t.rules.zipIdx.map fun (r, index) => .object (r.describe (.int index))

/-- The answer with all rules. -/
def showAnswer (t : RuleTable) : Answer :=
  .success "show" [("count", .int t.size), ("periods", .array (described t))] []

/-- An answer that shows rules, if they can be written. -/
def ifWritable (writable : Bool) (a : Answer) : Except Fault Answer :=
  if writable then .ok a else .error .decimalTooLarge

/-- The answer about a table, given the value of a look-up.  A look-up shows the rule that it
found, the other questions show all rules. -/
def answerAbout [StandIns] (q : Inquiry) (value : Value) (t : RuleTable) : Except Fault Answer :=
  match q.question with
  | .find text => do
    let found ← t.find value
    ifWritable (found.all fun f => f.rule.isWritable) (findAnswer text found)
  | .check => ifWritable t.isWritable (q.checkAnswer t)
  | .convert format => ifWritable t.isWritable (convertAnswer format t)
  | .show => ifWritable t.isWritable (showAnswer t)

/-- The answer after a step that may have failed.  The faults of what was handed in are reported,
the others are passed on. -/
def report (q : Inquiry) : Except Fault Answer → Except Fault Answer
  | .ok a => .ok a
  | .error fault =>
    if fault.faultClass.isReported then .ok (.failure q.question.op fault q.question.detail)
    else .error fault

/-- The answer to an inquiry.  The value of a look-up is read before the table is. -/
def answer [StandIns] (ids : IdSource) (configured : String) (q : Inquiry) :
    Except Fault Answer := do
  let value ← q.lookup
  q.report (q.load ids configured >>= q.answerAbout value)

/-! ## Notes -/

/-- The source of the notes about loading. -/
def loadSource : String := "condperiod.services.base"

/-- The source of the notes about questions. -/
def questionSource : String := "condperiod.services.rules"

/-- The kind of a table in notes. -/
def kindNote : Option Kind → String
  | some kind => kind.tagText
  | none => "None"

/-- The notes about loading the table. -/
def loadNotes [StandIns] (ids : IdSource) (configured : String) (q : Inquiry) : List Note :=
  let configuredNote :=
    if q.rules.isNone && configured != "" then ["Using configured rule table"] else []
  let loadedNote :=
    match q.load ids configured with
    | .ok t =>
      ["Loaded " ++ natText t.size ++ " period(s) of kind " ++ kindNote t.kind?]
    | .error _ => []
  (configuredNote ++ loadedNote).map (Note.debug loadSource)

/-- The note about a failure. -/
def failureNote [StandIns] (q : Inquiry) (fault : Fault) : String :=
  match q.question with
  | .find value => "find failed for " ++ quoted value ++ ": " ++ fault.message
  | question => question.op ++ " failed: " ++ fault.message

/-- The notes about the question itself. -/
def questionNotes [StandIns] (ids : IdSource) (configured : String) (q : Inquiry) (value : Value) :
    List String :=
  match q.load ids configured >>= fun t => (q.answerAbout value t).map fun a => (t, a) with
  | .error fault => if fault.faultClass.isReported then [q.failureNote fault] else []
  | .ok (_, a) =>
    match q.question with
    | .find text =>
      if a.warnings.isEmpty then [] else ["No period matched " ++ quoted text]
    | _ => []

/-- The debugging notes of an inquiry. -/
def notes [StandIns] (ids : IdSource) (configured : String) (q : Inquiry) : List Note :=
  match q.lookup with
  | .error _ => []
  | .ok value =>
    q.loadNotes ids configured ++
      (q.questionNotes ids configured value).map (Note.debug questionSource)

end Inquiry

end TieredTerms
