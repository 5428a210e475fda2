import TieredTerms.Rule.Id
import TieredTerms.Rule.Match
import TieredTerms.Json.Writer
import TieredTerms.Text.Blank

/-!
# Building rule tables

A table is built by putting rules into an empty one.  Its three written forms are one text with
commas, a list of compact forms, and such a list in JSON; they are read with the same step, so
that the first rule that does not fit is the fault in each.

* `RuleTable.push` puts a rule or its compact form into a table.
* `RuleTable.parse`, `RuleTable.ofItems` and `RuleTable.ofJson` read the three forms.
* `RuleTable.clone` builds every rule anew.

Rules built from text get their ids from an `IdSource`, which gives an id to every position.
-/

namespace TieredTerms

namespace RuleTable

/-- The rule that a value is, or the rule of a compact form. -/
def ruleOf [StandIns] (id : String) (v : Value) : Except Fault Rule :=
  match v.asText?, v with
  | some text, _ => Rule.parse (some id) text
  | none, .rule r => .ok r
  | none, _ => .error (.stored v.typeName)

/-- The place that an index names for an insertion, which is the end where no index is given. -/
def placeAt (t : RuleTable) (index : Value) : Except Fault Nat :=
  match index, index.asIndex? with
  | .none, _ => .ok t.size
  | _, some n => if isIndex n then .ok (insertionPlace t.size n) else .error .placeTooLarge
  | _, none => .error (.placeType index.fullTypeName)

/-- A rule of the kind of the first rule is of the kind of all rules. -/
theorem fits_of_kind? {t : RuleTable} {r : Rule} (h : ∀ kind ∈ t.kind?, r.kind = kind) :
    ∀ s ∈ t.rules, s.kind = r.kind :=
  fun s hs => (h s.kind (kind?_of_mem hs)).symm

/-- The table with a rule put in at an index, or at the end where no index is given.  The rule is
compared with the first one only, and refused where it is of another kind, whatever the index. -/
def pushRule (t : RuleTable) (index : Value) (r : Rule) : Except Fault RuleTable :=
  match hkind : t.kind? with
  | none => do return t.insert (← t.placeAt index) r (fits_of_kind? (by simp [hkind]))
  | some kind =>
    if hfit : r.kind = kind then do
      return t.insert (← t.placeAt index) r (fits_of_kind? (by simp [hkind, hfit]))
    else .error (.kindMismatch kind r.kind)

/-- The table with a rule or its compact form put in at an index, or at the end where no index is
given. -/
def push [StandIns] (id : String) (t : RuleTable) (v index : Value) : Except Fault RuleTable := do
  let r ← ruleOf id v
  t.pushRule index r

/-- The table of one rule or compact form. -/
def create [StandIns] (id : String) (v : Value) : Except Fault RuleTable :=
  empty.push id v .none

/-- A table extended by compact forms, the first of which is at the given position. -/
def pushForms [StandIns] (ids : IdSource) : Nat → RuleTable → List String → Except Fault RuleTable
  | _, t, [] => .ok t
  | position, t, form :: forms => do
    let r ← Rule.parse (some (ids position)) form
    let t ← t.pushRule .none r
    pushForms ids (position + 1) t forms

/-- The compact forms between the commas of a text, without the blanks around them. -/
def segments (text : String) : List String :=
  (text.toList.splitOn ',').map fun segment => String.ofList (stripChars segment)

/-- The table of a text of compact forms with commas between.  A blank text is the empty table. -/
def parse [StandIns] (ids : IdSource) (text : String) : Except Fault RuleTable :=
  if text.toList.all isBlank then .ok empty else pushForms ids 0 empty (segments text)

/-- The table of a value that has to be a text. -/
def ofTextValue [StandIns] (ids : IdSource) (v : Value) : Except Fault RuleTable :=
  match v.asText? with
  | some text => parse ids text
  | none => .error (.tableText v.typeName)

/-- A table extended by rules and compact forms, the first of which is at the given position. -/
def pushItems [StandIns] (ids : IdSource) : Nat → RuleTable → List Value → Except Fault RuleTable
  | _, t, [] => .ok t
  | position, t, item :: items => do
    match item with
    | .rule _ | .text _ | .kind _ =>
      let t ← t.push (ids position) item .none
      pushItems ids (position + 1) t items
    | _ => throw (.tableItem item.typeName position)

/-- The table of a list of rules and compact forms. -/
def ofItems [StandIns] (ids : IdSource) (v : Value) : Except Fault RuleTable :=
  match v with
  | .list items | .tuple items => pushItems ids 0 empty items
  | _ => .error (.tableItems v.typeName)

/-- The fault of a text that cannot be read as JSON. -/
def jsonFault : Json.ParseFault → Fault
  | .malformed fault => .json fault
  | .tooManyDigits count => .tooManyDigits count
  | .tooDeep container => .tooDeep container

/-- The table of a JSON array of compact forms. -/
def parseJson [StandIns] (ids : IdSource) (text : String) : Except Fault RuleTable := do
  let document ← (Json.parse text).mapError jsonFault
  ofItems ids (Value.ofDatum document)

/-- The table of a value that has to be a text of JSON. -/
def ofJsonValue [StandIns] (ids : IdSource) (v : Value) : Except Fault RuleTable :=
  match v.asText? with
  | some text => parseJson ids text
  | none => .error (.tableJson v.typeName)

/-- The rules built anew, the first of which is at the given position. -/
def cloneRules [StandIns] (ids : IdSource) : Nat → RuleTable → List Rule → Except Fault RuleTable
  | _, t, [] => .ok t
  | position, t, r :: rules => do
    let r ← r.clone (some (ids position))
    let t ← t.pushRule .none r
    cloneRules ids (position + 1) t rules

/-- A table of the same rules, each built anew. -/
def clone [StandIns] (ids : IdSource) (t : RuleTable) : Except Fault RuleTable :=
  cloneRules ids 0 empty t.rules

/-- The compact forms as a JSON array. -/
def toJson [StandIns] (t : RuleTable) : String :=
  Json.compactText (.array (t.compactForms.map .text))

end RuleTable

end TieredTerms
