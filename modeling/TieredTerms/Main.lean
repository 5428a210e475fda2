import Std.Time.Format
import TieredTerms.CommandLine.Run

/-!
# The program

Reads what surrounds a run, does it, and writes its outcome.
-/

namespace TieredTerms

/-- The text of a file, if it can be read. -/
def fileText? (path : String) : IO (Option String) := do
  try return some (← IO.FS.readFile path) catch _ => return none

/-- The environment variables that settings are read from. -/
def knownVariables : IO (List (String × String)) := do
  (Workspace.configVariable :: variableNames).filterMapM fun name => do
    return (← IO.getEnv name).map fun value => (name, value)

/-- The configuration file that a command line names. -/
def namedConfig [StandIns] (arguments : List String) : List String :=
  match ownOptions arguments with
  | .ok given => (given.value? "--config").toList
  | .error _ => []

/-- The files, folders and variables around a run of a command line.  Of the files only those are
read that may hold its configuration. -/
def surroundings [StandIns] (arguments : List String) : IO Surroundings := do
  let current := FilePath.ofText (← IO.currentDir).toString
  let environment ← knownVariables
  let named := namedConfig arguments ++ (environment.lookup Workspace.configVariable).toList
  let found := (ancestors current.names).map (Workspace.configIn current)
  let paths := named.map (fun path => current.join (.ofText path)) ++ found
  let files ← paths.filterMapM fun path => do
    return (← fileText? path.toText).map fun text => (path.normal.names, text)
  let w : Workspace := { files, folders := [current.names], current := current.names, environment }
  return w.surroundings

/-- The present time. -/
def timeStamp : IO String := do
  let now ← Std.Time.Timestamp.now
  let moment := Std.Time.PlainDateTime.ofWallTime (now.toWallTime .zero)
  return moment.format "uuuu-MM-dd'T'HH:mm:ss.SSSSSS'Z'"

end TieredTerms

open TieredTerms in
/-- Runs the program on its command line. -/
def main (arguments : List String) : IO UInt32 := do
  let around ← surroundings arguments
  let seed ← IO.rand 0 65535
  let ids : IdSource := fun position => ruleIdOf (seed + 40503 * position)
  let outcome := runProgram around.toWorkspace ids (← timeStamp) arguments
  IO.eprint outcome.errors
  IO.print outcome.output
  match outcome.unreported with
  | some fault => IO.eprintln fault.message
  | none => pure ()
  return outcome.status.toUInt32
