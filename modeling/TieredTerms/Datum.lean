import TieredTerms.Number.Shortest

/-!
# Data documents

The tree that a data document holds, whether it was read from JSON or from a configuration file.
An object keeps its fields in the order in which they were first given, each name once.

* `Datum.get?` looks a field up, `Fields.put` sets one.
* `Datum.texts` are the texts of a document.
-/

namespace TieredTerms

/-- A value of a data document.  A moment is a date or a time of day, kept as it was written. -/
inductive Datum where
  | null
  | bool (b : Bool)
  | int (n : Int)
  | real (x : Binary64)
  | text (s : String)
  | array (items : List Datum)
  | object (fields : List (String × Datum))
  | moment (written : String)
  deriving Inhabited

/-- Fields in the order in which their names were first given. -/
abbrev Fields := List (String × Datum)

namespace Fields

/-- The value of the field of that name. -/
def get? (fields : Fields) (name : String) : Option Datum :=
  (fields.find? fun field => field.1 == name).map Prod.snd

/-- Whether there is a field of that name. -/
def has (fields : Fields) (name : String) : Bool :=
  fields.any fun field => field.1 == name

/-- The fields with one set: a name that is there keeps its place, a new one comes last. -/
def put (name : String) (value : Datum) : Fields → Fields
  | [] => [(name, value)]
  | field :: fields =>
    if field.1 = name then (name, value) :: fields else field :: put name value fields

/-- The fields of pairs in which a later value replaces an earlier one of the same name. -/
def ofPairs (pairs : List (String × Datum)) : Fields :=
  pairs.foldl (fun fields pair => fields.put pair.1 pair.2) []

end Fields

namespace Datum

/-- Whether a value is null. -/
def isNull : Datum → Bool
  | .null => true
  | _ => false

/-- The field of that name, if the value is an object that has it. -/
def get? (d : Datum) (name : String) : Option Datum :=
  match d with
  | .object fields => Fields.get? fields name
  | _ => none

mutual

/-- The texts of a document, the names of its fields with them, in the order of writing. -/
def texts : Datum → List String
  | .text s | .moment s => [s]
  | .array items => itemTexts items
  | .object fields => fieldTexts fields
  | _ => []

/-- The texts of items. -/
def itemTexts : List Datum → List String
  | [] => []
  | item :: items => texts item ++ itemTexts items

/-- The names and the texts of fields. -/
def fieldTexts : List (String × Datum) → List String
  | [] => []
  | (name, value) :: fields => name :: texts value ++ fieldTexts fields

end

end Datum

end TieredTerms
