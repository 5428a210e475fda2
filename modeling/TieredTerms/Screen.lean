import TieredTerms.Text.Wrap

/-!
# Screens

Text for people is laid out for a screen of a given width.  Characters that control a terminal
are dropped, and every line written ends with a line end.

* `Screen.wrapped` lays a text out in lines, `Screen.raw` leaves its lines as long as they are.
* `Screen.dropStyles` takes the codes for styles out of a text.
-/

namespace TieredTerms

namespace Screen

/-- The width of a screen where none is given. -/
def defaultWidth : Nat := 120

/-- Whether a character controls a terminal: bell, backspace, the vertical tab, the form feed and
the carriage return. -/
def isControl (c : Char) : Bool :=
  c == '\x07' || c == '\x08' || c == '\x0b' || c == '\x0c' || c == '\r'

/-- The characters of a text that reach a screen. -/
def visible (text : String) : List Char :=
  text.toList.filter fun c => !isControl c

/-- Lines, each with its line end. -/
def ofLines (lines : List (List Char)) : List Char :=
  lines.flatMap fun line => line ++ ['\n']

/-- A text wrapped to the width of the screen. -/
def wrapped (width : Nat) (text : String) : List Char :=
  ofLines (wrapText width (visible text))

/-- The length of the style code that a text starts with, or zero: an escape character, a bracket,
parameters from `0` to `?`, marks from the space to `/`, and a last character from `@` to `~`. -/
def styleLength : List Char → Nat
  | '\x1b' :: '[' :: cs =>
    let parameters := cs.takeWhile fun c => '0' ≤ c && c ≤ '?'
    let marks := (cs.drop parameters.length).takeWhile fun c => ' ' ≤ c && c ≤ '/'
    let length := parameters.length + marks.length
    match cs.drop length with
    | c :: _ => if '@' ≤ c && c ≤ '~' then length + 3 else 0
    | [] => 0
  | _ => 0

/-- A text without style codes, less the first `skip` characters. -/
def dropStylesAfter : (skip : Nat) → List Char → List Char
  | _, [] => []
  | skip + 1, _ :: cs => dropStylesAfter skip cs
  | 0, c :: cs =>
    match styleLength (c :: cs) with
    | 0 => c :: dropStylesAfter 0 cs
    | length + 1 => dropStylesAfter length cs

/-- A text without style codes. -/
def dropStyles (cs : List Char) : List Char :=
  dropStylesAfter 0 cs

/-- A text whose lines are not broken, however long they are. -/
def raw (text : String) : List Char :=
  ofLines (((visible text).splitOn '\n').map expandTabs)

end Screen

end TieredTerms
