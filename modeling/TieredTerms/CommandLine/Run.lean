import TieredTerms.CommandLine.Commands
import TieredTerms.Config.Settings
import TieredTerms.Report

/-!
# Runs of the program

A run takes a command line and what surrounds it, and comes to an outcome: a status, and what is
written to the two streams.

* `Surroundings` are the workspaces in which nothing but settings bears on a run.
* `runProgram` is a run.  The program's own options are read first, then the settings are made,
  and only then the command's own command line is read.
* `answerOutcome` is the outcome of an answer: a success goes to the output, everything else to
  the error stream.
* `Outcome.unreported` is a fault that ends the program without a report.
-/

namespace TieredTerms

/-- A fault that ends the program without a report. -/
inductive Unreported where
  | config (fault : ConfigFault)
  | inquiry (fault : Fault)
  | report (fault : ReportFault)

/-- The words for a fault that ends the program. -/
def Unreported.message [StandIns] : Unreported → String
  | .config fault => fault.message
  | .inquiry fault => fault.message
  | .report fault => fault.message

/-- The outcome of a run: its status, what is written to the output and to the error stream, and
the fault that ended it, if any. -/
structure Outcome where
  status : Nat
  output : String
  errors : String
  unreported : Option Unreported

namespace Outcome

/-- A text as a stream that is no terminal takes it: without codes for styles, and with a line
end. -/
def printed (text : String) : String :=
  String.ofList (Screen.dropStyles text.toList) ++ "\n"

/-- A text as the error stream encodes it: lone units are escaped. -/
def encoded [StandIns] (text : String) : String :=
  String.ofList (text.toList.flatMap fun c =>
    match loneUnit? c with
    | some unit => codePointEscape unit
    | none => [c])

/-- A run that wrote one text to the output. -/
def success (text : String) : Outcome :=
  { status := 0, output := printed text, errors := "", unreported := none }

/-- A run whose command line does not fit its form. -/
def misuse [StandIns] (form : CommandForm) (fault : UsageFault) : Outcome :=
  { status := 2, output := "", unreported := none
    errors := encoded (String.ofList (Screen.dropStyles (form.faultText fault).toList)) }

/-- A run that failed with a message. -/
def failed [StandIns] (message : String) : Outcome :=
  { status := 1, output := "", errors := encoded (printed ("Error: " ++ message))
    unreported := none }

/-- A run that was ended by a fault. -/
def ended (fault : Unreported) : Outcome :=
  { status := 1, output := "", errors := "", unreported := some fault }

/-- The outcome with lines of a journal in front of the other errors. -/
def withLines [StandIns] (lines : List Line) (o : Outcome) : Outcome :=
  { o with
    errors := String.join (lines.map fun line => encoded (line.written ++ "\n")) ++ o.errors }

end Outcome

/-! ## Surroundings -/

/-- Whether a variable is one that settings may be read from. -/
def isOwnVariable (name : String) : Bool :=
  variablePrefix.toList.isPrefixOf (lowerName name).toList

/-- A workspace without variables of others.  These may ask for styled reports, for streams that
take other characters, or for completing the command line in place of a run. -/
structure Surroundings extends Workspace where
  own : ∀ entry ∈ environment, isOwnVariable entry.1 = true

/-- The workspace with its own variables alone. -/
def Workspace.surroundings (w : Workspace) : Surroundings where
  files := w.files
  folders := w.folders
  current := w.current
  environment := w.environment.filter fun entry => isOwnVariable entry.1
  own := fun _ h => (List.mem_filter.mp h).2

/-! ## Settings -/

/-- The outcome where the settings cannot be made. -/
def configOutcome [StandIns] : ConfigFault → Outcome
  | .syntaxFault path => .failed (ConfigFault.syntaxFault path).message
  | .issues issues => .failed (ConfigFault.issues issues).message
  | fault => .ended (.config fault)

/-- The layer of settings that a command line gives.  Every flag is given, set or not. -/
def flagFields (g : Given) : Fields :=
  [("json_output", .bool (g.has "--json")), ("verbose", .bool (g.has "--verbose")),
   ("log_json", .bool (g.has "--log-json"))]

/-- The settings of a command line. -/
def settingsOf [StandIns] (w : Workspace) (g : Given) : Except ConfigFault Settings :=
  w.settings (g.value? "--config") none (flagFields g)

/-- How a run with the settings shows answers. -/
def Settings.reportMode (s : Settings) : ReportMode :=
  { json := s.wantsJson, verbose := s.verbose }

/-- The journal of a run with the settings. -/
def Settings.journal (s : Settings) : Journal :=
  Journal.initial.setUp s.verbose s.logJson

/-! ## Answers -/

/-- The outcome of an answer that is reported by a text.  Warnings are written to the error stream,
except where the report holds them. -/
def reportedOutcome [StandIns] (mode : ReportMode) (a : Answer) (report : String) : Outcome :=
  if a.ok then
    let warnings := if mode.json then [] else a.warnings
    { Outcome.success report with
      errors := String.join (warnings.map fun warning =>
        Outcome.encoded (Outcome.printed ("WARNING: " ++ warning))) }
  else
    { status := 1, output := "", errors := Outcome.encoded (Outcome.printed report)
      unreported := none }

/-- The outcome of an answer. -/
def answerOutcome [StandIns] (mode : ReportMode) (a : Answer) : Outcome :=
  match Report.format mode a with
  | .ok report => reportedOutcome mode a report
  | .error fault => .ended (.report fault)

/-- The outcome of an inquiry. -/
def inquiryOutcome [StandIns] (ids : IdSource) (time : String) (s : Settings) (q : Inquiry) :
    Outcome :=
  let outcome :=
    match q.answer ids s.rules.table with
    | .ok a => answerOutcome s.reportMode a
    | .error fault => .ended (.inquiry fault)
  outcome.withLines (s.journal.lines time (q.notes ids s.rules.table))

/-! ## Command lines -/

/-- A run of a command. -/
def runCommand [StandIns] (ids : IdSource) (time : String) (s : Settings) (c : Command)
    (arguments : List String) : Outcome :=
  match c.form.read arguments with
  | .error fault => .misuse c.form fault
  | .ok given =>
    match given.firstOf? [Command.examplesOption.name, CommandForm.help.name] with
    | some name =>
      .success (if name = CommandForm.help.name then c.form.helpText [] else c.examplesText)
    | none =>
      match c.inquiry given with
      | .error fault => .misuse c.form fault
      | .ok q => inquiryOutcome ids time s q

/-- What a command line of the program comes to by its own options alone, or its options and the
words behind them. -/
def ownOptions [StandIns] (arguments : List String) : Except Outcome Given :=
  match programForm.read arguments with
  | .error fault => .error (.misuse programForm fault)
  | .ok given =>
    match given.firstOf? ["--version", CommandForm.help.name] with
    | some name =>
      .error (.success
        (if name = CommandForm.help.name then programForm.helpText Command.all else versionText))
    | none => .ok given

/-- The outcome for a word that is no command.  It is first read as an option, which it may be
where it follows `--`. -/
def unknownOutcome [StandIns] (word : String) (rest : List String) : Outcome :=
  match ownOptions (word :: rest) with
  | .error outcome => outcome
  | .ok _ =>
    .misuse programForm (.unknownCommand word (similarNames word (Command.all.map Command.word)))

/-- A run of the program.  Without a command it shows the help page. -/
def runProgram [StandIns] (w : Workspace) (ids : IdSource) (time : String)
    (arguments : List String) : Outcome :=
  match ownOptions arguments with
  | .error outcome => outcome
  | .ok given =>
    match given.arguments with
    | [] => inSettings given fun _ => .success (programForm.helpText Command.all)
    | word :: rest =>
      match Command.ofWord? word with
      | some c => inSettings given fun s => runCommand ids time s c rest
      | none => unknownOutcome word rest
where
  /-- The outcome with the settings of the command line. -/
  inSettings (given : Given) (run : Settings → Outcome) : Outcome :=
    match settingsOf w given with
    | .ok s => run s
    | .error fault => configOutcome fault

end TieredTerms
