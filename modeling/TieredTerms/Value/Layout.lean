import TieredTerms.Text.Cells
import TieredTerms.Value

/-!
# Values over several lines

A list or a dictionary that is too wide for one line is laid out with a line for each of its items,
which are indented and laid out in the same way.

* `Value.laidOut` are the lines of a value.
-/

namespace TieredTerms.Value

/-- The form of a value in messages; a number that is too long to be written has none. -/
def form [StandIns] (v : Value) : String :=
  v.shown?.getD ""

/-- Where a value stands that is laid out: its indentation, what stands in front of it, whether it
is an item of another, and whether a comma follows. -/
structure LayoutPlace where
  indentation : Nat
  label : String
  isItem : Bool
  hasComma : Bool

namespace LayoutPlace

/-- A line at the place, without what follows the value. -/
def start (p : LayoutPlace) (text : String) : String :=
  String.ofList (List.replicate p.indentation ' ') ++ text

/-- A line at the place that ends the value. -/
def finish (p : LayoutPlace) (text : String) : String :=
  p.start text ++ if p.hasComma then "," else ""

/-- Whether a text fits at the place.  A comma and a space behind an item are counted for every
item. -/
def fits (p : LayoutPlace) (width : Nat) (text : String) : Bool :=
  p.indentation + cellLength (p.label ++ text).toList + (if p.isItem then 2 else 0) ≤ width

/-- The place of an item of the value at a place. -/
def item (p : LayoutPlace) (label : String) (hasComma : Bool) : LayoutPlace :=
  ⟨p.indentation + 4, label, true, hasComma⟩

end LayoutPlace

mutual

/-- The lines of a value at a place. -/
def linesAt [StandIns] (width : Nat) (p : LayoutPlace) : Value → List String
  | .list (first :: rest) =>
    let whole := form (.list (first :: rest))
    if p.fits width whole then [p.finish (p.label ++ whole)]
    else p.start (p.label ++ "[") :: itemLines width p (first :: rest) ++ [p.finish "]"]
  | .dict (first :: rest) =>
    let whole := form (.dict (first :: rest))
    if p.fits width whole then [p.finish (p.label ++ whole)]
    else
      p.start (p.label ++ "\x7b") :: fieldLines width p (first :: rest) ++ [p.finish "\x7d"]
  | v => [p.finish (p.label ++ form v)]

/-- The lines of items of the value at a place. -/
def itemLines [StandIns] (width : Nat) (p : LayoutPlace) : List Value → List String
  | [] => []
  | item :: rest => linesAt width (p.item "" (!rest.isEmpty)) item ++ itemLines width p rest

/-- The lines of fields of the value at a place. -/
def fieldLines [StandIns] (width : Nat) (p : LayoutPlace) : List (String × Value) → List String
  | [] => []
  | (name, value) :: rest =>
    linesAt width (p.item (quoted name ++ ": ") (!rest.isEmpty)) value ++ fieldLines width p rest

end

/-- The lines of a value, of at most `width` cells where items can be put on lines of their own. -/
def laidOut [StandIns] (width : Nat) (v : Value) : List String :=
  linesAt width ⟨0, "", false, false⟩ v

end TieredTerms.Value
