import TieredTerms.Json.Writer
import TieredTerms.Value.Filled

/-!
# Journals

A journal takes notes and writes lines.  Every note has a source, whose name is divided by points,
and a severity; it is written where its severity reaches the threshold of the source, or else of the
nearest one above it that has one.  A source is above another one as soon as the journal has heard
of it.

* `Journal.setUp` sets a journal up for this library: one handler, in text or JSON, and the two
  thresholds that count.  It replaces what was set up before.
* `Journal.threshold` is the threshold that counts for a source.
* `Journal.lines` are the lines of notes, in the order of the notes.
* `Entry.note` is the note that an entry makes, with arguments put into its text, and
  `Journal.output` what a journal writes of entries.
-/

namespace TieredTerms

/-- How much a note matters: the higher the level, the more. -/
structure Severity where
  level : Int
  deriving DecidableEq

namespace Severity

def debug : Severity := ⟨10⟩

def info : Severity := ⟨20⟩

def warning : Severity := ⟨30⟩

def error : Severity := ⟨40⟩

def critical : Severity := ⟨50⟩

/-- The severities that have a word, the lowest first. -/
def words : List (Severity × String) :=
  [(⟨0⟩, "notset"), (debug, "debug"), (info, "info"), (warning, "warning"), (error, "error"),
   (critical, "critical")]

/-- The word for a severity, which is its level where it has none of its own. -/
def word (s : Severity) : String :=
  (words.lookup s).getD ("level " ++ intText s.level)

end Severity

/-- A note: its severity, where it comes from, what it tells, and further fields. -/
structure Note where
  severity : Severity
  source : String
  event : Datum
  fields : Fields

/-- A note for debugging, without further fields. -/
def Note.debug (source text : String) : Note :=
  { severity := .debug, source, event := .text text, fields := [] }

/-- The two forms of lines. -/
inductive LineForm where
  | text
  | json
  deriving DecidableEq

/-- A line of a journal. -/
inductive Line where
  | text (written : String)
  | document (fields : Fields)

namespace Line

/-- The line as it is written, without a line end. -/
def written [StandIns] : Line → String
  | .text written => written
  | .document fields => Json.compactText (.object fields)

end Line

/-- A journal: a handler for every line that a note is written as, the thresholds of sources, and
the sources that it has heard of. -/
structure Journal where
  handlers : List LineForm
  thresholds : List (String × Severity)
  sources : List String

namespace Journal

/-- The source at the top, above all others. -/
def topSource : String := ""

/-- The source that this library's own sources stand below. -/
def ownSource : String := "condperiod"

/-- The journal before it is set up: nothing is written. -/
def initial : Journal :=
  { handlers := [], thresholds := [(topSource, .warning)], sources := [] }

/-- The journal after it has heard of a source. -/
def heard (j : Journal) (source : String) : Journal :=
  if j.sources.contains source then j else { j with sources := source :: j.sources }

/-- The threshold that was set for a source itself. -/
def thresholdAt (j : Journal) (source : String) : Option Severity :=
  j.thresholds.lookup source

/-- The journal with the threshold of a source set. -/
def setThreshold (j : Journal) (source : String) (severity : Severity) : Journal :=
  { j.heard source with
    thresholds := (source, severity) :: j.thresholds.filter fun entry => entry.1 != source }

/-- The threshold above a source whose name is read from its end.  It is that of the next source
that the journal has heard of, which is what stands before a point.  Where there is none, a point
right in front of the point divides nothing. -/
def thresholdAbove (j : Journal) : List Char → Severity
  | [] => (j.thresholdAt topSource).getD .warning
  | '.' :: c :: cs =>
    let above := String.ofList (c :: cs).reverse
    if j.sources.contains above then (j.thresholdAt above).getD (j.thresholdAbove (c :: cs))
    else j.thresholdAbove cs
  | _ :: cs => j.thresholdAbove cs

/-- The threshold that counts for a source: its own, or else that above it.  The name `root` is the
top's. -/
def threshold (j : Journal) (source : String) : Severity :=
  let source := if source = "root" then topSource else source
  (j.thresholdAt source).getD (j.thresholdAbove source.toList.reverse)

/-- Whether a note is written. -/
def accepts (j : Journal) (note : Note) : Bool :=
  (j.threshold note.source).level ≤ note.severity.level

/-- The journal set up for a run.  All handlers are replaced by one; notes of this library are
written from debugging notes on where the run is verbose, all others from warnings on. -/
def setUp (verbose json : Bool) (j : Journal) : Journal :=
  let handled := { j with handlers := [if json then .json else .text] }
  (handled.setThreshold topSource .warning).setThreshold ownSource
    (if verbose then .debug else .warning)

/-! ## Lines -/

/-- A text filled up with blanks at its end. -/
def padded (width : Nat) (text : String) : String :=
  text ++ String.ofList (List.replicate (width - text.length) ' ')

/-- The name of a source in lines. -/
def sourceName (source : String) : String :=
  if source = "" then "root" else source

/-- The names that a note's further fields cannot have in a line. -/
def reservedNames : List String :=
  ["event", "level", "logger", "timestamp", "_record", "_from_structlog"]

/-- The fields that ask for a trace.  They are not shown themselves. -/
def traceRequests : List String := ["exc_info", "stack_info"]

/-- The fields that lines of text show in a place of their own. -/
def placedNames : List String := ["logger_name", "stack", "exception"]

/-- The further fields of a note that lines show. -/
def shownFields (note : Note) : Fields :=
  note.fields.filter fun field =>
    !reservedNames.contains field.1 && !traceRequests.contains field.1

/-- A field of a note that is there and not null. -/
def fieldOf? (note : Note) (name : String) : Option Datum :=
  (Fields.get? note.fields name).filter fun d => !d.isNull

/-- Whether a text is quoted as the value of a field: it holds a blank, an equals sign or a
quote. -/
def needsQuotes (s : String) : Bool :=
  s.toList.any fun c => [' ', '\t', '=', '\r', '\n', '"', '\''].contains c

/-- The value of a field in a line of text. -/
def fieldValue [StandIns] : Datum → String
  | .text s => if needsQuotes s then quoted s else s
  | d => d.plain

/-- The line between two traces. -/
def traceRule : String := String.ofList (List.replicate 79 '=')

/-- The traces of a note, each from a line of its own on.  A rule stands behind the stack where
there is an exception, or was to be one. -/
def traces [StandIns] (note : Note) : String :=
  let exception := fieldOf? note "exception"
  let expected := (fieldOf? note "exc_info").any fun d => (Value.ofDatum d).isTruthy
  let stack :=
    match fieldOf? note "stack" with
    | some d =>
      "\n" ++ d.plain ++
        if expected || exception.isSome then "\n\n" ++ traceRule ++ "\n" else ""
    | none => ""
  stack ++ match exception with
    | some d => "\n" ++ d.plain
    | none => ""

/-- A note as a text: the time, the severity, what it tells, the sources, and the further fields in
the order of their names, with traces below.  Nothing stands for what is null. -/
def textLine [StandIns] (time : String) (note : Note) : String :=
  let event := if note.event.isNull then [] else [padded 30 note.event.plain]
  let sources := (.text (sourceName note.source) :: (fieldOf? note "logger_name").toList).map
    fun d : Datum => "[" ++ d.plain ++ "]"
  let fields := ((shownFields note).filter fun field => !placedNames.contains field.1).mergeSort
    fun a b => decide (a.1 ≤ b.1)
  let written := fields.map fun (name, value) => name ++ "=" ++ fieldValue value
  " ".intercalate
    (time :: ("[" ++ padded 9 note.severity.word ++ "]") :: event ++ sources ++ written) ++
    traces note

/-- A note as a document. -/
def documentLine (time : String) (note : Note) : Fields :=
  shownFields note ++
    [("event", note.event), ("level", .text note.severity.word),
     ("logger", .text (sourceName note.source)), ("timestamp", .text time)]

/-- The line that a handler writes for a note. -/
def line [StandIns] (time : String) (note : Note) : LineForm → Line
  | .text => .text (textLine time note)
  | .json => .document (documentLine time note)

/-- The lines of a note, stamped with a time. -/
def noteLines [StandIns] (j : Journal) (time : String) (note : Note) : List Line :=
  if j.accepts note then j.handlers.map (line time note) else []

/-- The lines of notes, stamped with a time. -/
def lines [StandIns] (j : Journal) (time : String) : List Note → List Line
  | [] => []
  | note :: notes => j.noteLines time note ++ (j.heard note.source).lines time notes

end Journal

/-! ## Entries -/

/-- The text of a note with its arguments.  Without arguments marks have no meaning, and neither do
marks that the arguments do not fit. -/
def noteText [StandIns] (text : String) (args : List Datum) : String :=
  if args.isEmpty then text else (filled? text (Value.ofItems args)).getD text

/-- What a journal is told: a note as it is, or a text with arguments for its marks. -/
inductive Entry where
  | structured (note : Note)
  | plain (severity : Severity) (source text : String) (args : List Datum)

namespace Entry

/-- The note that an entry makes. -/
def note [StandIns] : Entry → Note
  | .structured note => note
  | .plain severity source text args =>
    { severity, source, event := .text (noteText text args), fields := [] }

/-- Whether an entry can be written: the arguments fit the marks, and no whole number that is shown
is too long. -/
def isWritable [StandIns] : Entry → Bool
  | .structured note =>
    (note.event :: (Journal.shownFields note).map Prod.snd).all fun d =>
      (Value.ofDatum d).plain?.isSome
  | .plain _ _ text args => args.isEmpty || (filled? text (Value.ofItems args)).isSome

end Entry

namespace Journal

/-- The lines of an entry, stamped with the time that it is told at. -/
def entryLines [StandIns] (j : Journal) (time : String) (entry : Entry) : List Line :=
  if entry.isWritable then j.noteLines time entry.note else []

/-- The lines of entries, each told at a time of its own. -/
def told [StandIns] (j : Journal) : List (String × Entry) → List Line
  | [] => []
  | (time, entry) :: entries =>
    j.entryLines time entry ++ (j.heard entry.note.source).told entries

/-- What a journal writes of entries. -/
def output [StandIns] (j : Journal) (entries : List (String × Entry)) : List Char :=
  (j.told entries).flatMap fun line => line.written.toList ++ ['\n']

end Journal

end TieredTerms
