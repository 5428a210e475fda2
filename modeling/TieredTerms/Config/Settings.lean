import TieredTerms.Config.Discovery

/-!
# Settings

The settings of a run come in layers: the flags that were given, the environment variables, the
configuration file, and defaults.  The layers are laid over each other as documents, a higher
layer over a lower one, and the result is checked once.

* `overlay` lays one document over another.
* `Workspace.variableFields` is the layer of the environment.
* `Settings.ofFields` checks the result, `Workspace.settings` does all of it.
-/

namespace TieredTerms

/-! ## Layers -/

mutual

/-- A value laid over one that may be there: objects are merged field by field, anything else
replaces what was there. -/
def overlayValue (base : Option Datum) : Datum → Datum
  | .object fields =>
    match base with
    | some (.object below) => .object (overlay below fields)
    | _ => .object fields
  | d => d

/-- The fields of a document with those of another laid over them.  New fields come last. -/
def overlay (base : Fields) : List (String × Datum) → Fields
  | [] => base
  | (name, value) :: fields =>
    overlay (base.put name (overlayValue (Fields.get? base name) value)) fields

end

/-! ## Environment variables -/

/-- What the names of the variables for settings start with. -/
def variablePrefix : String := "condperiod_"

/-- What stands between the names of a section and its field in the name of a variable. -/
def nestingMark : List Char := ['_', '_']

/-- The pieces of a text between the nesting marks. -/
def splitNested : List Char → List (List Char)
  | '_' :: '_' :: cs => [] :: splitNested cs
  | c :: cs =>
    match splitNested cs with
    | piece :: rest => (c :: piece) :: rest
    | [] => [[c]]
  | [] => [[]]

/-- The fields with a text set at the end of a path.  What stands in the way of the path stays. -/
def setNested (value : String) : List String → Fields → Fields
  | [], fields => fields
  | [name], fields => fields.put name (.text value)
  | name :: path, fields =>
    match Fields.get? fields name with
    | none => fields.put name (.object (setNested value path []))
    | some (.object sub) => fields.put name (.object (setNested value path sub))
    | some _ => fields

/-- A character of a name in lower case.  The sign for kelvin is a capital K as well; the other
letters outside ASCII are in no name that settings have. -/
def lowerNameChar (c : Char) : Char :=
  if c = '\u212a' then 'k' else c.toLower

/-- A name in lower case. -/
def lowerName (name : String) : String :=
  String.ofList (name.toList.map lowerNameChar)

/-- The variables with their names in lower case; of several the last one counts. -/
def loweredVariables (environment : List (String × String)) : List (String × String) :=
  environment.foldl (fun lowered (name, value) => put (lowerName name) value lowered) []
where
  /-- The variables with one set. -/
  put (name value : String) : List (String × String) → List (String × String)
    | [] => [(name, value)]
    | entry :: rest =>
      if entry.1 = name then (name, value) :: rest else entry :: put name value rest

/-- The fields of a section that variables set one by one. -/
def nestedFields (environment : List (String × String)) (section_ : String) : Fields :=
  let start := (variablePrefix ++ section_).toList ++ nestingMark
  environment.foldl (fun fields (name, value) =>
    if start.isPrefixOf name.toList then
      setNested value ((splitNested (name.toList.drop start.length)).map String.ofList) fields
    else fields) []

/-- The name of a field of a section, for a name in any case. -/
def fieldName (known : List String) (name : String) : String :=
  (known.find? fun k => lowerName k = lowerName name).getD name

/-- A section as the variables give it: a JSON document with single fields laid over it. -/
def sectionOfVariables [StandIns] (environment : List (String × String)) (section_ : String)
    (known : List String) : Except ConfigFault (Option Datum) := do
  let rename (fields : Fields) : Datum :=
    .object (Fields.ofPairs (fields.map fun (name, value) => (fieldName known name, value)))
  let nested := nestedFields environment section_
  match environment.lookup (variablePrefix ++ section_) with
  | none => return if nested.isEmpty then none else some (rename nested)
  | some text =>
    match Json.parse text with
    | .error (.tooDeep container) => throw (.tooDeep container)
    | .error _ => throw (.variable section_)
    | .ok (.object fields) => return some (rename (overlay fields nested))
    | .ok .null => return none
    | .ok d => return some d

/-- The settings that are single values. -/
def plainSettings : List String := ["config_path", "json_output", "verbose", "log_json"]

/-- The settings that are sections, with the names of their fields. -/
def sectionSettings : List (String × List String) :=
  [("rules", ["table", "kind"]), ("output", ["json"])]

/-- The names of the variables that settings are read from, in capitals as usual. -/
def variableNames : List String :=
  let nested := sectionSettings.flatMap fun (section_, known) =>
    section_ :: known.map fun name => section_ ++ String.ofList nestingMark ++ name
  (plainSettings ++ nested).map fun name => (variablePrefix ++ name).toUpper

namespace Workspace

/-- The layer of the environment. -/
def variableFields [StandIns] (w : Workspace) : Except ConfigFault Fields := do
  let environment := loweredVariables w.environment
  let plain : Fields := plainSettings.filterMap fun name =>
    (environment.lookup (variablePrefix ++ name)).map fun value => (name, .text value)
  let sections ← sectionSettings.filterMapM fun (name, known) => do
    return (← sectionOfVariables environment name known).map fun value => (name, value)
  return plain ++ sections

end Workspace

/-! ## The settings of a run -/

/-- The settings of a run. -/
structure Settings where
  configPath : Option String
  jsonFlag : Bool
  verbose : Bool
  logJson : Bool
  rules : RulesSection
  output : OutputSection

namespace Settings

/-- Whether reports are in JSON: by flag or by the output section. -/
def wantsJson (s : Settings) : Bool :=
  s.jsonFlag || s.output.json

/-- The names that settings have. -/
def knownNames : List String :=
  plainSettings ++ sectionSettings.map Prod.fst

/-- The issues of fields that are no settings. -/
def unknownFields (fields : Fields) : Checked Unit :=
  let unknown := fields.filter fun field => !knownNames.contains field.1
  if unknown.isEmpty then .ok ()
  else .error (unknown.map fun field => ⟨[.field field.1], .unknownField⟩)

/-- The settings of a document, for a run that read the configuration file at the given path.
Every field that does not fit is told, fields that are no settings last. -/
def ofFields [StandIns] (configPath : Option String) (fields : Fields) : Checked Settings := do
  let truth (name : String) := Checked.field fields name false readTruth
  let flags := Checked.both (truth "json_output") (Checked.both (truth "verbose")
    (truth "log_json"))
  let sections := Checked.both (Checked.field fields "rules" .default RulesSection.ofDatum)
    (Checked.field fields "output" .default OutputSection.ofDatum)
  let ((flags, sections), _) ←
    Checked.both (Checked.both flags sections) (unknownFields fields)
  let (jsonFlag, verbose, logJson) := flags
  let (rules, output) := sections
  return { configPath, jsonFlag, verbose, logJson, rules, output }

end Settings

namespace Workspace

/-- The configuration file of a run: the one that is named, if it is a file, or the one found for a
folder where none is named. -/
def chosenConfig (w : Workspace) (named : Option String) (start : Option FilePath) :
    Except ConfigFault (Option FilePath) :=
  match named with
  | some text =>
    if text = "" then w.findConfig start else w.ifFile (FilePath.ofText text)
  | none => w.findConfig start

/-- The settings of a run with the given flags, for a named configuration file or the one found
for a folder. -/
def settings [StandIns] (w : Workspace) (named : Option String) (start : Option FilePath)
    (flags : Fields) : Except ConfigFault Settings := do
  let path ← w.chosenConfig named start
  let file ← match path with
    | some path => w.readConfig path
    | none => pure []
  let environment ← w.variableFields
  let written := path.map FilePath.toText
  let given := ("config_path", (written.map .text).getD .null) :: flags
  let merged := overlay (overlay file environment) given
  (Settings.ofFields written merged).mapError .issues

end Workspace

end TieredTerms
