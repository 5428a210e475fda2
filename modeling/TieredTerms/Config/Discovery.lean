import TieredTerms.Config.Schema
import TieredTerms.Hierarchy
import TieredTerms.Toml.Reader

/-!
# Finding the configuration

The configuration file is the one that an environment variable names, or else the nearest one in
the current folder or above it.

* `FilePath` is a path as a list of names, `Workspace` the files, folders and variables around a
  run.
* `Workspace.contents` opens a file; `PathFault` tells why a path does not lead to one.
* `Workspace.findConfig` finds the file, `Workspace.readConfig` reads it and
  `Workspace.loadConfig` does both.
-/

namespace TieredTerms

/-- A path: its root, which is empty for a relative one, and the names below it. -/
structure FilePath where
  root : String
  names : List String
  deriving DecidableEq

namespace FilePath

/-- The path of a text.  Empty names and single dots do not count; two slashes in front make a
root of their own. -/
def ofText (text : String) : FilePath :=
  let slashes := (text.toList.takeWhile (· == '/')).length
  let root := if slashes = 0 then "" else if slashes = 2 then "//" else "/"
  let names := (text.toList.splitOn '/').map String.ofList
  ⟨root, names.filter fun name => name != "" && name != "."⟩

/-- The text of a path. -/
def toText (p : FilePath) : String :=
  if p.root = "" ∧ p.names = [] then "." else p.root ++ "/".intercalate p.names

/-- Whether a path starts at a root. -/
def isAbsolute (p : FilePath) : Bool :=
  p.root != ""

/-- A path that is meant from inside another. -/
def join (base p : FilePath) : FilePath :=
  if p.isAbsolute then p else ⟨base.root, base.names ++ p.names⟩

/-- The names of a path from a root on without its steps upwards. -/
def settle : List String → List String → List String
  | reached, [] => reached
  | reached, name :: names =>
    if name = ".." then settle reached.dropLast names else settle (reached ++ [name]) names

/-- A path without steps upwards. -/
def normal (p : FilePath) : FilePath :=
  { p with names := settle [] p.names }

end FilePath

/-- What surrounds a run: the files with their contents and the folders, both by the names of
their absolute paths, the current folder, and the environment variables. -/
structure Workspace where
  files : List (List String × String)
  folders : List (List String)
  current : List String
  environment : List (String × String)

/-- Why a path does not lead to a file. -/
inductive PathFault where
  /-- There is nothing at the path. -/
  | missing
  /-- What should be a folder on the way is a file. -/
  | notFolder
  /-- There is a folder at the path. -/
  | isFolder
  /-- A name of the path or the path itself has too many bytes. -/
  | tooLong
  /-- The path holds a null character. -/
  | nullCharacter
  deriving DecidableEq

/-- The words for a path that does not lead to a file. -/
def PathFault.message [StandIns] (path : String) : PathFault → String
  | .missing => "[Errno 2] No such file or directory: " ++ quoted path
  | .notFolder => "[Errno 20] Not a directory: " ++ quoted path
  | .isFolder => "[Errno 21] Is a directory: " ++ quoted path
  | .tooLong => "[Errno 36] File name too long: " ++ quoted path
  | .nullCharacter => "embedded null byte"

/-- Why a configuration file gives no configuration. -/
inductive ConfigFault where
  /-- The path does not lead to a file. -/
  | noFile (reason : PathFault) (path : String)
  /-- The file is no TOML document. -/
  | syntaxFault (path : String)
  /-- A number of the file has too many digits. -/
  | tooManyDigits (count : Nat)
  /-- The document does not fit. -/
  | issues (issues : List Issue)
  /-- The value of a variable is no JSON document. -/
  | variable (field : String)
  /-- The value of a variable has a container inside too many others. -/
  | tooDeep (container : Json.Container)

namespace ConfigFault

/-- An issue in two lines: its place and its words. -/
def issueText (issue : Issue) : String :=
  ".".intercalate (issue.path.map PathStep.text) ++ "\n  " ++ issue.problem.message

/-- The words for a configuration with issues. -/
def issuesText (all : List Issue) : String :=
  "Invalid configuration: " ++ natText all.length ++ " validation error" ++
    (if all.length = 1 then "" else "s") ++ " for CondperiodSettings\n" ++
    "\n".intercalate (all.map issueText)

/-- The words for a fault. -/
def message [StandIns] : ConfigFault → String
  | .noFile reason path => reason.message path
  | .syntaxFault path => "Invalid TOML in " ++ path
  | .tooManyDigits count => (Fault.tooManyDigits count).message
  | .issues all => issuesText all
  | .variable field =>
    "error parsing value for field \"" ++ field ++ "\" from source \"EnvSettingsSource\""
  | .tooDeep container => (Fault.tooDeep container).message

end ConfigFault

namespace Workspace

/-- The name of configuration files. -/
def configName : String := "condperiod.toml"

/-- The variable that names the configuration file. -/
def configVariable : String := "CONDPERIOD_CONFIG"

/-- The value of an environment variable. -/
def lookupVariable (w : Workspace) (name : String) : Option String :=
  w.environment.lookup name

/-- Whether there is a folder of those names. -/
def isFolder (w : Workspace) (names : List String) : Bool :=
  w.folders.any (names.isPrefixOf ·) || w.files.any fun file => names.isPrefixOf file.1.dropLast

/-- The most bytes that a name may have. -/
def nameLimit : Nat := 255

/-- The most bytes that a path may have. -/
def pathLimit : Nat := 4095

/-- The place that names lead to from a place.  Every place on the way has to be a folder. -/
def follow (w : Workspace) : List String → List String → Except PathFault (List String)
  | reached, [] => .ok reached
  | reached, name :: names =>
    if !w.isFolder reached then
      .error (if (w.files.lookup reached).isSome then .notFolder else .missing)
    else if name = ".." then follow w reached.dropLast names
    else if nameLimit < name.utf8ByteSize then .error .tooLong
    else follow w (reached ++ [name]) names

/-- The contents of the file at a path. -/
def contents (w : Workspace) (p : FilePath) : Except PathFault String := do
  if p.toText.toList.contains '\x00' then throw .nullCharacter
  if pathLimit < p.toText.utf8ByteSize then throw .tooLong
  let names ← w.follow (if p.isAbsolute then [] else w.current) p.names
  match w.files.lookup names with
  | some text => return text
  | none => throw (if w.isFolder names then .isFolder else .missing)

/-- The contents of the file at a path, with the path in the fault. -/
def openFile (w : Workspace) (p : FilePath) : Except ConfigFault String :=
  (w.contents p).mapError (.noFile · p.toText)

/-- Whether there is a file at a path.  A path that is too long cannot be asked about. -/
def isFile (w : Workspace) (p : FilePath) : Except ConfigFault Bool :=
  match w.contents p with
  | .ok _ => .ok true
  | .error .tooLong => .error (.noFile .tooLong p.toText)
  | .error _ => .ok false

/-- The path, if there is a file at it. -/
def ifFile (w : Workspace) (p : FilePath) : Except ConfigFault (Option FilePath) := do
  return if ← w.isFile p then some p else none

/-- The folder that a search starts from: an absolute path without steps upwards. -/
def startFolder (w : Workspace) (start : Option FilePath) : FilePath :=
  { (FilePath.join ⟨"/", w.current⟩ (start.getD ⟨"", []⟩)).normal with root := "/" }

/-- The path of the configuration file in a folder. -/
def configIn (folder : FilePath) (names : List String) : FilePath :=
  ⟨folder.root, names ++ [configName]⟩

/-- The configuration file in a folder or the nearest one above it. -/
def nearestConfig (w : Workspace) (folder : FilePath) : Except ConfigFault (Option FilePath) :=
  ((ancestors folder.names).map (configIn folder)).findM? w.isFile

/-- The configuration file for a folder.  A variable that names a file decides alone, even where
there is no such file. -/
def findConfig (w : Workspace) (start : Option FilePath) : Except ConfigFault (Option FilePath) :=
  let named := (w.lookupVariable configVariable).getD ""
  if named ≠ "" then w.ifFile (FilePath.ofText named)
  else w.nearestConfig (w.startFolder start)

/-- The document of the configuration file at a path. -/
def readConfig (w : Workspace) (p : FilePath) : Except ConfigFault Fields := do
  match Toml.parse (← w.openFile p) with
  | .ok fields => .ok fields
  | .error .invalid => .error (.syntaxFault p.toText)
  | .error (.tooManyDigits count) => .error (.tooManyDigits count)

/-- The configuration of the file at a path, or of the one that is found for a folder.  Without a
file nothing is configured. -/
def loadConfig [StandIns] (w : Workspace) (path start : Option FilePath) :
    Except ConfigFault Configuration := do
  let path ← match path with
    | some path => pure (some path)
    | none => w.findConfig start
  match path with
  | some p => (Configuration.ofDatum (.object (← w.readConfig p))).mapError .issues
  | none => return .default

end Workspace

end TieredTerms
