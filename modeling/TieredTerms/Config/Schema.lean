import TieredTerms.Checked
import TieredTerms.RuleTable.Build

/-!
# The configuration

A configuration has a section for a rule table and one for output.  It comes as a document, and
what does not fit is told as a list of issues, each with its place in the document.

* `RulesSection.ofDatum`, `OutputSection.ofDatum` and `Configuration.ofDatum` read the sections
  and the whole.
* `RulesSection.check` refuses a table that cannot be read or holds rules of another kind than the
  section says.
-/

namespace TieredTerms

/-- The kind that a value names; null names none. -/
def readKind (d : Datum) : Checked (Option Kind) :=
  match d with
  | .null => .ok none
  | .text s =>
    match Kind.ofTag? s with
    | some kind => .ok (some kind)
    | none => Checked.problem .noKind
  | _ => Checked.problem .noKind

/-! ## Sections -/

/-- The section about rules: the compact form of a table, and the kind that its rules have to
have. -/
structure RulesSection where
  table : String
  kind : Option Kind
  deriving DecidableEq

namespace RulesSection

/-- The section where nothing is configured. -/
def default : RulesSection :=
  ⟨"", none⟩

/-- The kind of a table in messages. -/
def kindShown [StandIns] : Option Kind → String
  | some kind => kind.shown
  | none => "None"

/-- The section, if its table is empty, or can be read and has the kind that is asked for. -/
def check [StandIns] (s : RulesSection) : Checked RulesSection :=
  if s.table = "" then .ok s
  else
    match RuleTable.parse (fun _ => "") s.table, s.kind with
    | .error fault, _ => Checked.problem (.rejected fault.message)
    | .ok t, some kind =>
      if t.kind? = some kind then .ok s
      else Checked.problem (.rejected ("[rules] table holds " ++ kindShown t.kind? ++
        " periods, expected " ++ kind.shown))
    | .ok _, none => .ok s

/-- The section of a document.  The table is checked where both fields are well formed. -/
def ofDatum [StandIns] (d : Datum) : Checked RulesSection :=
  match d with
  | .object fields => do
    let (table, kind) ←
      Checked.both (Checked.field fields "table" "" readText)
        (Checked.field fields "kind" none readKind)
    check ⟨table, kind⟩
  | _ => Checked.problem (.noSection "RulesConfig")

end RulesSection

/-- The section about output: whether reports are in JSON. -/
structure OutputSection where
  json : Bool
  deriving DecidableEq

namespace OutputSection

/-- The section where nothing is configured. -/
def default : OutputSection :=
  ⟨false⟩

/-- The section of a document.  Its field has two names, of which the short one comes first. -/
def ofDatum (d : Datum) : Checked OutputSection :=
  match d with
  | .object fields => do
    let name := if Fields.has fields "json" then "json" else "json_output"
    return ⟨← Checked.field fields name false readTruth⟩
  | _ => Checked.problem (.noSection "OutputConfig")

end OutputSection

/-- A whole configuration. -/
structure Configuration where
  rules : RulesSection
  output : OutputSection

namespace Configuration

/-- The configuration where nothing is configured. -/
def default : Configuration :=
  ⟨.default, .default⟩

/-- The configuration of a document.  Fields without a meaning are passed over. -/
def ofDatum [StandIns] (d : Datum) : Checked Configuration :=
  match d with
  | .object fields => do
    let (rules, output) ←
      Checked.both (Checked.field fields "rules" .default RulesSection.ofDatum)
        (Checked.field fields "output" .default OutputSection.ofDatum)
    return { rules, output }
  | _ => Checked.problem (.noSection "CondperiodConfig")

end Configuration

end TieredTerms
