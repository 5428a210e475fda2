import TieredTerms.Text.Similar

/-!
# Options of a command line

A command line is a list of arguments of which some are options.  An option has a name that starts
with two dashes, perhaps a letter for use behind a single dash, and perhaps a value: behind the
equals sign of its name, behind its letter, or in the next argument.  The argument `--` ends the
options.

* `OptionReader.read` divides a command line into the options and the other arguments.
* `UsageFault` is everything that can be wrong with a command line.
-/

namespace TieredTerms

/-- What is wrong with a command line. -/
inductive UsageFault where
  /-- There is no such option; others have similar names. -/
  | unknownOption (name : String) (similar : List String)
  /-- The option needs a value. -/
  | valueMissing (name : String)
  /-- The option has no value. -/
  | valueUnexpected (name : String)
  /-- The value of the option is not among the choices. -/
  | choice (name given : String) (choices : List String)
  /-- The argument is missing. -/
  | argumentMissing (name : String)
  /-- There are more arguments than the command has. -/
  | argumentsUnexpected (arguments : List String)
  /-- There is no such command; others have similar names. -/
  | unknownCommand (name : String) (similar : List String)
  deriving DecidableEq

/-- An option: its name, its letter, the word for its value if it has one, and what it does. -/
structure OptionForm where
  name : String
  letter : Option Char
  value : Option String
  summary : String

/-- What a command line gives: options in their order, each with its value, and the other
arguments. -/
structure Given where
  options : List (String × Option String)
  arguments : List String

namespace Given

/-- Whether an option is given. -/
def has (g : Given) (name : String) : Bool :=
  g.options.any fun option => option.1 == name

/-- The value of an option.  The last one counts. -/
def value? (g : Given) (name : String) : Option String :=
  ((g.options.reverse.find? fun option => option.1 == name).bind Prod.snd)

/-- The first option given that is among the names. -/
def firstOf? (g : Given) (names : List String) : Option String :=
  (g.options.map Prod.fst).find? names.contains

/-- One more option in front. -/
def withOption (name : String) (value : Option String) (g : Given) : Given :=
  { g with options := (name, value) :: g.options }

/-- One more argument in front. -/
def withArgument (argument : String) (g : Given) : Given :=
  { g with arguments := argument :: g.arguments }

end Given

/-- The options that a command knows, and whether they may stand behind its other arguments. -/
structure OptionReader where
  options : List OptionForm
  anywhere : Bool

namespace OptionReader

/-- Options read from one argument, and whether the next argument was taken for a value. -/
structure Taken where
  options : List (String × Option String)
  next : Bool

/-- The name and the attached value of an argument that is an option. -/
def divide (argument : List Char) : List Char × Option (List Char) :=
  match argument.dropWhile (· != '=') with
  | _ :: value => (argument.takeWhile (· != '='), some value)
  | [] => (argument, none)

/-- The options behind a single dash.  The letter of an option with a value takes the rest of the
argument, or else the next one. -/
def takeLetters (r : OptionReader) (next : Option String) : List Char → Except UsageFault Taken
  | [] => .ok ⟨[], false⟩
  | c :: cs =>
    match r.options.find? fun option => option.letter = some c with
    | none => .error (.unknownOption (String.ofList ['-', c]) [])
    | some option =>
      if option.value.isSome then
        if !cs.isEmpty then .ok ⟨[(option.name, some (String.ofList cs))], false⟩
        else
          match next with
          | some value => .ok ⟨[(option.name, some value)], true⟩
          | none => .error (.valueMissing (String.ofList ['-', c]))
      else (r.takeLetters next cs).map fun taken =>
        { taken with options := (option.name, none) :: taken.options }

/-- The options of an argument that starts with a dash. -/
def take (r : OptionReader) (argument : String) (next : Option String) :
    Except UsageFault Taken :=
  let (name, attached) := divide argument.toList
  let name := String.ofList name
  match r.options.find? fun option => option.name = name with
  | some option =>
    match option.value.isSome, attached, next with
    | true, some value, _ => .ok ⟨[(name, some (String.ofList value))], false⟩
    | true, none, some value => .ok ⟨[(name, some value)], true⟩
    | true, none, none => .error (.valueMissing name)
    | false, some _, _ => .error (.valueUnexpected name)
    | false, none, _ => .ok ⟨[(name, none)], false⟩
  | none =>
    match argument.toList with
    | '-' :: '-' :: _ =>
      .error (.unknownOption name (similarNames name (r.options.map OptionForm.name)))
    | _ :: letters => r.takeLetters next letters
    | [] => .ok ⟨[], false⟩

/-- Whether an argument is an option: it starts with a dash and is longer. -/
def isOption (argument : String) : Bool :=
  match argument.toList with
  | '-' :: _ :: _ => true
  | _ => false

/-- The options and the other arguments of a command line. -/
def read (r : OptionReader) : List String → Except UsageFault Given
  | [] => .ok ⟨[], []⟩
  | argument :: rest =>
    if argument = "--" then .ok ⟨[], rest⟩
    else if isOption argument then do
      let taken ← r.take argument rest.head?
      let given ← r.read (rest.drop (if taken.next then 1 else 0))
      return taken.options.foldr (fun (name, value) => Given.withOption name value) given
    else if r.anywhere then (r.read rest).map (Given.withArgument argument)
    else .ok ⟨[], argument :: rest⟩
termination_by arguments => arguments.length
decreasing_by
  all_goals
    simp only [List.length_drop, List.length_cons]
    omega

end OptionReader

end TieredTerms
