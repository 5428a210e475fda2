import TieredTerms.Text.Blank
import TieredTerms.Text.Cells

/-!
# Wrapping lines

A line that is too long for a screen is broken between words.  A word keeps the blanks behind it;
blanks at the start of a line belong to its first word.  A word that is longer than a whole line
is either folded, so that its pieces fill lines of their own, or left to be cut.

* `words` divides a line, `breakPlaces` finds where it has to be broken.
* `wrapLine` is the broken line; `wrapText` does so for a text of several lines, tabs expanded.
-/

namespace TieredTerms

/-- Characters divided before every character that follows a blank and is none itself. -/
def pieces : List Char → List (List Char)
  | [] => []
  | c :: cs =>
    match pieces cs with
    | [] => [[c]]
    | [] :: rest => [c] :: rest
    | (d :: piece) :: rest =>
      if isBlank c && !isBlank d then [c] :: (d :: piece) :: rest else (c :: d :: piece) :: rest

/-- The words of a line with the blanks behind them.  A blank line has none. -/
def words (cs : List Char) : List (List Char) :=
  match pieces cs with
  | first :: rest =>
    if first.all isBlank then
      match rest with
      | [] => []
      | second :: rest => (first ++ second) :: rest
    else first :: rest
  | [] => []

/-- The places at which pieces start, the first of them at `start`. -/
def startPlaces : Nat → List (List Char) → List Nat
  | _, [] => []
  | start, piece :: rest => start :: startPlaces (start + piece.length) rest

/-- The places before which a line of words is broken.  `used` cells of the current line are
taken, and the next word starts at place `start`.  Nothing is broken before the first
character. -/
def breakPlaces (width : Nat) (fold : Bool) : Nat → Nat → List (List Char) → List Nat
  | _, _, [] => []
  | used, start, word :: rest =>
    let length := cellLength (stripEndChars word)
    let next := start + word.length
    if used + length ≤ width then
      breakPlaces width fold (used + cellLength word) next rest
    else if width < length then
      if fold then
        let folded := chopCells width word
        (startPlaces start folded).filter (· ≠ 0) ++
          breakPlaces width fold (cellLength (folded.getLastD [])) next rest
      else
        (if start = 0 then [] else [start]) ++
          breakPlaces width fold (cellLength word) next rest
    else if used ≠ 0 ∧ start ≠ 0 then
      start :: breakPlaces width fold (cellLength word) next rest
    else breakPlaces width fold used next rest

/-- Characters, the first of them at place `start`, divided before the given places. -/
def divideAt (start : Nat) : List Nat → List Char → List (List Char)
  | [], cs => [cs]
  | place :: places, cs =>
    cs.take (place - start) :: divideAt place places (cs.drop (place - start))

/-- The characters without those blanks at the end that lie beyond `width` characters. -/
def trimBeyond (width : Nat) (cs : List Char) : List Char :=
  let blanks := (cs.reverse.takeWhile isBlank).length
  cs.take (cs.length - min blanks (cs.length - width))

/-- A line broken into lines of words. -/
def breakLine (width : Nat) (fold : Bool) (cs : List Char) : List (List Char) :=
  (divideAt 0 (breakPlaces width fold 0 0 (words cs)) cs).map (trimBeyond width)

/-- A line broken into lines of at most `width` cells, long words folded. -/
def wrapLine (width : Nat) (cs : List Char) : List (List Char) :=
  (breakLine width true cs).map fun line =>
    if width < cellLength line then fitCells line width else line

/-- The distance between tab stops. -/
def tabStop : Nat := 8

/-- The parts of a line between its tabs, each but the last filled up with blanks to the next tab
stop.  `used` cells of the line are taken. -/
def expandParts : Nat → List (List Char) → List Char
  | _, [] => []
  | _, [part] => part
  | used, part :: parts =>
    let length := used + cellLength part + 1
    let padding := (tabStop - length % tabStop) % tabStop
    part ++ ' ' :: List.replicate padding ' ' ++ expandParts (length + padding) parts

/-- A line with its tabs expanded. -/
def expandTabs (cs : List Char) : List Char :=
  if cs.contains '\t' then expandParts 0 (cs.splitOn '\t') else cs

/-- The lines of a text on a screen of `width` cells. -/
def wrapText (width : Nat) (cs : List Char) : List (List Char) :=
  (cs.splitOn '\n').flatMap fun line => wrapLine width (expandTabs line)

end TieredTerms
