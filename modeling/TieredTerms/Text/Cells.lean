import TieredTerms.Text.CellWidth

/-!
# Clusters of characters

Characters can stand on a screen as one: a mark stands on the character before it, the joiner
takes in the character behind it, and the picture selector turns the character before it into a
picture, which may take a cell more.

* `cellLength` is the number of cells that characters take.
* `clusters` divides characters into those that stand as one, which are never torn apart.
* `fitCells` makes characters take exactly a given number of cells, `chopCells` cuts them into
  pieces of at most so many.
-/

namespace TieredTerms

/-- The character that joins its neighbours. -/
def joiner : Char := '\u200d'

/-- The character that asks for the character before it as a picture. -/
def pictureSelector : Char := '\ufe0f'

/-- The cells that characters take, where `measured` is the last character that took cells.  A
joiner hides the character behind it, and a picture selector widens the last one measured. -/
def cellLengthFrom (measured : Option Char) : List Char → Nat
  | [] => 0
  | c :: cs =>
    if c = joiner then
      match cs with
      | [] => 0
      | _ :: rest => cellLengthFrom measured rest
    else if c = pictureSelector then
      (if measured.any isPicture then 1 else 0) + cellLengthFrom none cs
    else if cellWidth c = 0 then cellLengthFrom measured cs
    else cellWidth c + cellLengthFrom (some c) cs

/-- The cells that characters take. -/
def cellLength (cs : List Char) : Nat :=
  cellLengthFrom none cs

/-! ## Clusters -/

/-- Characters that stand on a screen as one, and the cells that they take together. -/
structure Cluster where
  chars : List Char
  cells : Nat

/-- Clusters while they are formed, the last one first and its characters in reverse; the last
character that took cells; and whether the next character is joined to the last cluster. -/
structure Clusters where
  formed : List Cluster
  measured : Option Char
  joining : Bool

namespace Clusters

/-- No clusters. -/
def empty : Clusters := ⟨[], none, false⟩

/-- A cluster of its own for a character. -/
def start (s : Clusters) (c : Char) : Clusters :=
  { formed := ⟨[c], cellWidth c⟩ :: s.formed
    measured := if cellWidth c = 0 then s.measured else some c
    joining := false }

/-- The clusters with one more character.  The first character always starts a cluster; later on
only a character that takes cells does. -/
def add (s : Clusters) (c : Char) : Clusters :=
  match s.formed with
  | [] => s.start c
  | last :: before =>
    let joined : Clusters := { s with formed := ⟨c :: last.chars, last.cells⟩ :: before }
    if s.joining then { joined with joining := false }
    else if c = joiner then { joined with joining := true }
    else if c = pictureSelector then
      if s.measured.any isPicture then
        { joined with formed := ⟨c :: last.chars, last.cells + 1⟩ :: before, measured := none }
      else joined
    else if cellWidth c = 0 then joined
    else s.start c

end Clusters

/-- The clusters of characters. -/
def clusters (cs : List Char) : List Cluster :=
  (cs.foldl Clusters.add .empty).formed.reverse.map fun c => ⟨c.chars.reverse, c.cells⟩

/-! ## Cutting -/

/-- The first `total` cells of clusters.  A cluster that lies across the cut is left out, with a
blank in its stead. -/
def cutClusters : (total : Nat) → List Cluster → List Char
  | 0, _ => []
  | _, [] => []
  | total, c :: rest =>
    if c.cells ≤ total then c.chars ++ cutClusters (total - c.cells) rest else [' ']

/-- The characters cut or filled up with blanks to exactly `total` cells. -/
def fitCells (cs : List Char) (total : Nat) : List Char :=
  let length := cellLength cs
  if length = total then cs
  else if length < total then cs ++ List.replicate (total - length) ' '
  else cutClusters total (clusters cs)

/-- Clusters cut into pieces of at most `width` cells, where `used` cells of the first piece are
taken.  A last piece without cells is none. -/
def chopClusters (width : Nat) : (used : Nat) → List Cluster → List (List Char)
  | used, [] => if used = 0 then [] else [[]]
  | used, c :: rest =>
    if width < used + c.cells then [] :: place c (chopClusters width c.cells rest)
    else place c (chopClusters width (used + c.cells) rest)
where
  /-- The pieces with a cluster before the first. -/
  place (c : Cluster) : List (List Char) → List (List Char)
    | [] => []
    | piece :: pieces => (c.chars ++ piece) :: pieces

/-- Characters cut into pieces of at most `width` cells. -/
def chopCells (width : Nat) (cs : List Char) : List (List Char) :=
  chopClusters width 0 (clusters cs)

end TieredTerms
