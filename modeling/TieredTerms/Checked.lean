import TieredTerms.Datum
import TieredTerms.Text.Digit

/-!
# Checked documents

What is read from a document is checked on the way, and what does not fit is told as a list of
issues, each with its place in the document.

* `Issue` is a problem with its place, `Checked` what was read or the issues.
* `Checked.both` reads two parts and tells the issues of both, `Checked.field` and
  `Checked.required` read fields.
* `readText`, `readTruth`, `readFields` and `readTexts` read values.
-/

namespace TieredTerms

/-! ## Issues -/

/-- What is wrong at a place of a document. -/
inductive Problem where
  | noText
  | noKind
  | noTruthValue
  | unreadableTruthValue
  | noList
  | noObject
  | noSection (name : String)
  | missing
  | unknownField
  | rejected (message : String)
  deriving DecidableEq

namespace Problem

/-- The name of a problem. -/
def code : Problem → String
  | .noText => "string_type"
  | .noKind => "enum"
  | .noTruthValue => "bool_type"
  | .unreadableTruthValue => "bool_parsing"
  | .noList => "list_type"
  | .noObject => "dict_type"
  | .noSection _ => "model_type"
  | .missing => "missing"
  | .unknownField => "extra_forbidden"
  | .rejected _ => "value_error"

/-- The words for a problem. -/
def message : Problem → String
  | .noText => "Input should be a valid string"
  | .noKind => "Input should be 'C' or 'D'"
  | .noTruthValue => "Input should be a valid boolean"
  | .unreadableTruthValue => "Input should be a valid boolean, unable to interpret input"
  | .noList => "Input should be a valid list"
  | .noObject => "Input should be a valid dictionary"
  | .noSection name => "Input should be a valid dictionary or instance of " ++ name
  | .missing => "Field required"
  | .unknownField => "Extra inputs are not permitted"
  | .rejected message => "Value error, " ++ message

end Problem

/-- A step on the way to a place of a document. -/
inductive PathStep where
  | field (name : String)
  | item (index : Nat)
  deriving DecidableEq

/-- The words for a step. -/
def PathStep.text : PathStep → String
  | .field name => name
  | .item index => natText index

/-- A problem with the steps on the way to its place. -/
structure Issue where
  path : List PathStep
  problem : Problem
  deriving DecidableEq

/-- What a document holds, or the issues of the document. -/
abbrev Checked (α : Type) := Except (List Issue) α

namespace Checked

/-- A document that has one problem of its own. -/
def problem {α : Type} (p : Problem) : Checked α :=
  .error [⟨[], p⟩]

/-- What a part of a document holds, with the issues placed below the step to the part. -/
def below {α : Type} (step : PathStep) : Checked α → Checked α
  | .ok x => .ok x
  | .error issues => .error (issues.map fun issue => { issue with path := step :: issue.path })

/-- Two parts together; the issues of both are told, those of the first before those of the
second. -/
def both {α β : Type} (a : Checked α) (b : Checked β) : Checked (α × β) :=
  match a, b with
  | .ok x, .ok y => .ok (x, y)
  | .ok _, .error issues => .error issues
  | .error issues, .ok _ => .error issues
  | .error first, .error second => .error (first ++ second)

/-- The value of a field, or a default where it is missing. -/
def field {α : Type} (fields : Fields) (name : String) (default : α) (read : Datum → Checked α) :
    Checked α :=
  match Fields.get? fields name with
  | some d => (read d).below (.field name)
  | none => .ok default

/-- The value of a field that has to be there. -/
def required {α : Type} (fields : Fields) (name : String) (read : Datum → Checked α) : Checked α :=
  match Fields.get? fields name with
  | some d => (read d).below (.field name)
  | none => .error [⟨[.field name], .missing⟩]

/-- All items of a list, the first of which is at the given index. -/
def items {α : Type} (read : Datum → Checked α) : Nat → List Datum → Checked (List α)
  | _, [] => .ok []
  | index, d :: ds => do
    let (x, xs) ← both ((read d).below (.item index)) (items read (index + 1) ds)
    return x :: xs

end Checked

/-! ## Values of fields -/

/-- The text that a value is. -/
def readText (d : Datum) : Checked String :=
  match d with
  | .text s => .ok s
  | _ => Checked.problem .noText

/-- The words for true. -/
def trueWords : List String := ["1", "on", "t", "true", "y", "yes"]

/-- The words for false. -/
def falseWords : List String := ["0", "off", "f", "false", "n", "no"]

/-- The truth value of a whole number: one and zero have one, and others of 64 bits are
unreadable. -/
def truthOfInt (n : Int) : Checked Bool :=
  if n = 1 then .ok true
  else if n = 0 then .ok false
  else if -(Nat.pow 2 63 : Int) ≤ n ∧ n < Nat.pow 2 63 then Checked.problem .unreadableTruthValue
  else Checked.problem .noTruthValue

/-- The truth value of a double: that of the whole number it is, if it lies strictly between those
of 64 bits. -/
def truthOfReal (x : Binary64) : Checked Bool :=
  match x.toRat? with
  | some q =>
    if q.den = 1 ∧ -(Nat.pow 2 63 : Int) < q.num ∧ q.num < Nat.pow 2 63 then truthOfInt q.num
    else Checked.problem .noTruthValue
  | none => Checked.problem .noTruthValue

/-- The truth value that a value stands for: itself, a word in any case, or a one or zero. -/
def readTruth (d : Datum) : Checked Bool :=
  match d with
  | .bool b => .ok b
  | .text s =>
    let word := s.toLower
    if trueWords.contains word then .ok true
    else if falseWords.contains word then .ok false
    else Checked.problem .unreadableTruthValue
  | .int n => truthOfInt n
  | .real x => truthOfReal x
  | _ => Checked.problem .noTruthValue

/-- The fields of an object. -/
def readFields (d : Datum) : Checked Fields :=
  match d with
  | .object fields => .ok fields
  | _ => Checked.problem .noObject

/-- The texts of a list. -/
def readTexts (d : Datum) : Checked (List String) :=
  match d with
  | .array items => Checked.items readText 0 items
  | _ => Checked.problem .noList

end TieredTerms
