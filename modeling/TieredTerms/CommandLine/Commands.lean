import TieredTerms.CommandLine.Options
import TieredTerms.Inquiry

/-!
# Commands

The program has one command for each question, and options of its own in front of the command.

* `Command.form` and `programForm` are the forms of the command lines, `CommandForm.faultText` and
  `CommandForm.helpText` are what is said about them.
* `Command.inquiry` is the inquiry that a command line makes.
-/

namespace TieredTerms

/-- The form of a command line: the words in front of it, how its arguments are written, what it
does, its options, and whether they may stand behind the arguments. -/
structure CommandForm where
  path : String
  usage : String
  summary : String
  options : List OptionForm
  anywhere : Bool

namespace CommandForm

/-- The option that shows the help page. -/
def help : OptionForm :=
  ⟨"--help", none, none, "Show this message and exit."⟩

/-- The options and arguments of a command line of this form. -/
def read (f : CommandForm) (arguments : List String) : Except UsageFault Given :=
  OptionReader.read ⟨f.options, f.anywhere⟩ arguments

/-- The line that shows the form. -/
def usageLine (f : CommandForm) : String :=
  "Usage: " ++ f.path ++ " [OPTIONS] " ++ f.usage

end CommandForm

/-! ## The forms -/

/-- The form of the program's own options, which stand in front of the command. -/
def programForm : CommandForm :=
  { path := "condperiod"
    usage := "[COMMAND] [ARGS]..."
    summary := "condperiod — resolve values against conditional period rules."
    options :=
      [⟨"--version", none, none, "Show the version and exit."⟩,
       ⟨"--json", none, none, "Structured JSON output."⟩,
       ⟨"--verbose", some 'v', none, "Detailed output with debug info."⟩,
       ⟨"--log-json", none, none, "Structured JSON log output to stderr."⟩,
       ⟨"--config", some 'c', some "TEXT", "Override config file path."⟩,
       CommandForm.help]
    anywhere := false }

/-- The version of the program. -/
def versionText : String := "condperiod, version 0.1.0"

/-- The commands, one for each question. -/
inductive Command where
  | find
  | check
  | convert
  | show
  deriving DecidableEq

/-- The forms that a table is converted to. -/
def tableFormats : List String := ["json", "string"]

namespace Command

/-- All commands, in alphabetical order. -/
def all : List Command := [.check, .convert, .find, .show]

/-- The word for a command. -/
def word : Command → String
  | .find => "find"
  | .check => "check"
  | .convert => "convert"
  | .show => "show"

/-- The command of a word. -/
def ofWord? (word : String) : Option Command :=
  all.find? fun command => command.word = word

/-- The option that tells that the table is in JSON. -/
def fromJson : OptionForm :=
  ⟨"--from-json", none, none, "Read the rule table as a JSON array of compact strings."⟩

/-- The option that shows examples. -/
def examplesOption : OptionForm :=
  ⟨"--examples", none, none, "Show usage examples and exit."⟩

/-- The options of a command alone. -/
def ownOptions : Command → List OptionForm
  | .find => [⟨"--rules", some 'r', some "TEXT", "Rule table (defaults to [rules] table)."⟩]
  | .convert => [⟨"--to", none, some "[json|string]", "Output encoding."⟩]
  | .check | .show => []

/-- What a command does. -/
def summary : Command → String
  | .find => "Find the first period matching VALUE (a category or an ISO 8601 duration)."
  | .check => "Validate RULES and print its kind, size and canonical form."
  | .convert => "Convert RULES between the compact string and JSON array encodings."
  | .show => "Show the periods of RULES as a table, in lookup order."

/-- The form of a command's own command line. -/
def form (c : Command) : CommandForm :=
  { path := programForm.path ++ " " ++ c.word
    usage := if c = .find then "VALUE" else "[RULES]"
    summary := c.summary
    options := c.ownOptions ++ [fromJson, examplesOption, CommandForm.help]
    anywhere := true }

/-- Examples of a command. -/
def examples : Command → List String
  | .find =>
    ["condperiod find 4 --rules 'C1-3P1D,C4-6P2D'",
     "condperiod find P3D --rules 'DP1DP2DP1Y,DP3DP0DP2Y'",
     "condperiod find 4 --rules '[\"C1-3P1D\",\"C4-6P2D\"]' --from-json",
     "condperiod find 4              # uses [rules] table from condperiod.toml"]
  | .check =>
    ["condperiod check 'C1-3P1D,C4-6P2D'",
     "condperiod check '[\"DP1DP2DP1Y\"]' --from-json",
     "condperiod check               # checks [rules] table from condperiod.toml"]
  | .convert =>
    ["condperiod convert 'C1-3P1D,C4-6P2D'",
     "condperiod convert '[\"C1-3P1D\",\"C4-6P2D\"]' --from-json --to string"]
  | .show =>
    ["condperiod show 'C1-3P1D,C4-6P2D,C7-0P1Y'",
     "condperiod -v show             # include period ids"]

/-- The page with the examples of a command. -/
def examplesText (c : Command) : String :=
  "Examples for '" ++ c.form.path ++ "':\n\n" ++
    "\n".intercalate (c.examples.map fun line => "  " ++ line)

/-! ## Inquiries -/

/-- The table that is given as the only argument, if any. -/
def onlyRules (arguments : List String) : Except UsageFault (Option String) :=
  match arguments with
  | [] => .ok none
  | [rules] => .ok (some rules)
  | _ :: rest => .error (.argumentsUnexpected rest)

/-- The form that a table is converted to. -/
def target (g : Given) : Except UsageFault String :=
  match g.value? "--to" with
  | none => .ok "json"
  | some format =>
    if tableFormats.contains format then .ok format
    else .error (.choice "--to" format tableFormats)

/-- The inquiry that a command line makes. -/
def inquiry (c : Command) (g : Given) : Except UsageFault Inquiry :=
  let fromJson := g.has fromJson.name
  match c with
  | .find =>
    match g.arguments with
    | [] => .error (.argumentMissing "VALUE")
    | [value] => .ok { question := .find value, rules := g.value? "--rules", fromJson }
    | _ :: rest => .error (.argumentsUnexpected rest)
  | .check => do return { question := .check, rules := ← onlyRules g.arguments, fromJson }
  | .convert => do
    let format ← target g
    return { question := .convert format, rules := ← onlyRules g.arguments, fromJson }
  | .show => do return { question := .show, rules := ← onlyRules g.arguments, fromJson }

end Command

/-! ## Texts about command lines -/

namespace UsageFault

/-- What is offered in place of an unknown name. -/
def suggestion [StandIns] : List String → String
  | [] => ""
  | [name] => " Did you mean " ++ quoted name ++ "?"
  | names => " (Did you mean one of: " ++ ", ".intercalate (names.map quoted) ++ "?)"

/-- The words for a fault. -/
def message [StandIns] : UsageFault → String
  | .unknownOption name similar =>
    "No such option " ++ quoted name ++ "." ++ suggestion similar
  | .valueMissing name => "Option " ++ quoted name ++ " requires an argument."
  | .valueUnexpected name => "Option " ++ quoted name ++ " does not take a value."
  | .choice name given choices =>
    "Invalid value for " ++ quoted name ++ ": " ++ quoted given ++ " is not one of " ++
      ", ".intercalate (choices.map quoted) ++ "."
  | .argumentMissing name => "Missing argument " ++ quoted name ++ "."
  | .argumentsUnexpected arguments =>
    "Got unexpected extra argument" ++ (if arguments.length = 1 then "" else "s") ++ " (" ++
      " ".intercalate arguments ++ ")"
  | .unknownCommand name similar =>
    "No such command " ++ quoted name ++ "." ++ suggestion similar

/-- Whether a fault is told together with the form of the command line.  A fault of an option's
value is told alone. -/
def showsForm : UsageFault → Bool
  | .valueMissing _ | .valueUnexpected _ => false
  | _ => true

end UsageFault

namespace CommandForm

/-- What is said about a command line that does not fit its form. -/
def faultText [StandIns] (f : CommandForm) (fault : UsageFault) : String :=
  let hint := f.usageLine ++ "\nTry '" ++ f.path ++ " --help' for help.\n\n"
  (if fault.showsForm then hint else "") ++ "Error: " ++ fault.message ++ "\n"

/-- An option as help pages show it. -/
def optionText (o : OptionForm) : String :=
  (match o.letter with
    | some c => String.ofList ['-', c] ++ ", "
    | none => "") ++ o.name ++
  match o.value with
    | some value => " " ++ value
    | none => ""

/-- Lines of two columns. -/
def columnLines (rows : List (String × String)) : List String :=
  let width := (rows.map fun row => row.1.length).foldl max 0
  rows.map fun (left, right) => "  " ++ Journal.padded width left ++ "  " ++ right

/-- The help page of a command line, with the commands that may follow it. -/
def helpText (f : CommandForm) (commands : List Command) : String :=
  let options := columnLines (f.options.map fun o => (optionText o, o.summary))
  let following := columnLines (commands.map fun c => (c.word, c.summary))
  "\n".intercalate
    ([f.usageLine, "", "  " ++ f.summary, "", "Options:"] ++ options ++
      if following.isEmpty then [] else ["", "Commands:"] ++ following)

end CommandForm

end TieredTerms
