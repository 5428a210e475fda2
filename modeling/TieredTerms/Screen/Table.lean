import TieredTerms.Screen
import TieredTerms.Text.Lines

/-!
# Tables on a screen

A table has columns of texts under headers and is drawn with a box around them.  The columns are
as wide as their texts, or narrowed until the table fits the screen: first the widest columns that
can be broken, and all of them if that is not enough.

* `BoxTable.columnWidths` are the widths of the columns, `BoxTable.drawn` the lines of the table.
-/

namespace TieredTerms

/-- A column of a table: its header, whether its texts stand at the right, whether their lines are
broken, and its texts below the header. -/
structure Column where
  header : String
  atRight : Bool
  wraps : Bool
  texts : List String

/-- A table of texts; all columns have the same number of them. -/
structure BoxTable where
  columns : List Column

namespace BoxTable

/-- The blanks at the left of a cell: none in the first column. -/
def leftPadding (index : Nat) : Nat :=
  if index = 0 then 0 else 1

/-- The blanks at the right of a cell: none in the last column. -/
def rightPadding (count index : Nat) : Nat :=
  if index + 1 = count then 0 else 1

/-- The cells that the longest line of a text takes. -/
def textWidth (text : String) : Nat :=
  ((lines (Screen.visible text)).map cellLength).foldl max 0

/-- The width that a column would like to have, padding included, of at most `limit`. -/
def naturalWidth (count limit index : Nat) (column : Column) : Nat :=
  let padding := leftPadding index + rightPadding count index
  ((column.header :: column.texts).map fun text =>
    min limit (textWidth text + padding)).foldl max 0

/-- The widths less a total excess, shared out over the columns in proportion to their shares, to
each at most its own most. -/
def reduce : (excess shares : Nat) → List (Nat × Nat × Nat) → List Nat
  | _, _, [] => []
  | excess, shares, (share, most, width) :: rest =>
    if share ≠ 0 ∧ 0 < shares then
      let part := min most (nearestPart (share * excess) shares)
      (width - part) :: reduce (excess - part) (shares - share) rest
    else width :: reduce excess shares rest
where
  /-- The quotient rounded to the nearest integer, a tie to the even one. -/
  nearestPart (n d : Nat) : Nat :=
    let low := n / d
    let twice := 2 * (n % d)
    if twice < d then low
    else if d < twice then low + 1
    else if low % 2 = 0 then low
    else low + 1

/-- The sum of the widths. -/
def total (widths : List Nat) : Nat :=
  widths.foldl (· + ·) 0

/-- The widths less a total excess; a column with no most has no share. -/
def ratioReduce (excess : Nat) (ratios most widths : List Nat) : List Nat :=
  let ratios := (ratios.zip most).map fun (ratio, most) => if most = 0 then 0 else ratio
  if total ratios = 0 then widths
  else reduce excess (total ratios) (ratios.zip (most.zip widths))

/-- The widths after the widest columns that wrap have been narrowed, again and again down to the
next wider ones, until the total is at most `limit`.  The fuel bounds the number of rounds. -/
def collapse (wraps : List Bool) (limit : Nat) : Nat → List Nat → List Nat
  | 0, widths => widths
  | fuel + 1, widths =>
    let sum := total widths
    if sum ≤ limit then widths
    else
      let pairs := widths.zip wraps
      let widest := ((pairs.filter Prod.snd).map Prod.fst).foldl max 0
      let second := (pairs.map fun (width, wraps) =>
        if wraps && width != widest then width else 0).foldl max 0
      let ratios := pairs.map fun (width, wraps) => if width == widest && wraps then 1 else 0
      let difference := widest - second
      if total ratios = 0 ∨ difference = 0 then widths
      else
        let excess := sum - limit
        let most := widths.map fun _ => min excess difference
        collapse wraps limit fuel (ratioReduce excess ratios most widths)

/-- The widths of the columns, padding included, on a screen of `width` cells. -/
def columnWidths (t : BoxTable) (width : Nat) : List Nat :=
  let count := t.columns.length
  let limit := width - (count + 1)
  let natural := t.columns.zipIdx.map fun (column, index) =>
    max 1 (naturalWidth count limit index column)
  if total natural ≤ limit then natural
  else
    let wraps := t.columns.map Column.wraps
    let narrowed :=
      if wraps.any id then collapse wraps limit (total natural + 1) natural else natural
    let narrowed :=
      if total narrowed ≤ limit then narrowed
      else ratioReduce (total narrowed - limit) (narrowed.map fun _ => 1) narrowed narrowed
    (t.columns.zipIdx.zip narrowed).map fun ((column, index), width) =>
      naturalWidth count width index column

/-- A line cut to `width` cells, the last of them an ellipsis, if it is longer. -/
def ellipsis (width : Nat) (line : List Char) : List Char :=
  if width < cellLength line then fitCells line (width - 1) ++ ['…'] else line

/-- A line at the left or right of `width` cells. -/
def aligned (atRight : Bool) (width : Nat) (line : List Char) : List Char :=
  if atRight then
    let line := ellipsis width (stripEndChars line)
    List.replicate (width - cellLength line) ' ' ++ line
  else
    let line := ellipsis width line
    line ++ List.replicate (width - cellLength line) ' '

/-- The lines of a cell of `width` cells without padding.  A cell without any room has none. -/
def cellLines (column : Column) (width : Nat) (text : String) : List (List Char) :=
  if width = 0 then []
  else
    ((Screen.visible text).splitOn '\n').flatMap fun line =>
      let line := expandTabs line
      let broken := if column.wraps then breakLine width false line else [trimBeyond width line]
      broken.map (aligned column.atRight width)

/-- The lines of a cell with its padding, filled up to `height` lines.  A header stands at the
bottom, other cells at the top. -/
def paddedCell (count index width height : Nat) (atBottom : Bool) (lines : List (List Char)) :
    List (List Char) :=
  let left := List.replicate (leftPadding index) ' '
  let right := List.replicate (rightPadding count index) ' '
  let filled := lines.map fun line => left ++ line ++ right
  let blank := List.replicate (height - lines.length) (List.replicate width ' ')
  if atBottom then blank ++ filled else filled ++ blank

/-- The lines of a row between the given bars. -/
def rowLines (t : BoxTable) (widths : List Nat) (bar : Char) (atBottom : Bool)
    (texts : List String) : List (List Char) :=
  let count := t.columns.length
  let cells := ((t.columns.zip widths).zip texts).zipIdx.map fun (((column, width), text), index) =>
    let inner := width - leftPadding index - rightPadding count index
    (index, width, cellLines column inner text)
  let height := (cells.map fun (_, _, lines) => lines.length).foldl max 1
  let padded := cells.map fun (index, width, lines) =>
    paddedCell count index width height atBottom lines
  (List.range height).map fun line =>
    bar :: [bar].intercalate (padded.map fun cell => cell.getD line []) ++ [bar]

/-- A rule of the box across the columns. -/
def ruleLine (left line cross right : Char) (widths : List Nat) : List Char :=
  left :: [cross].intercalate (widths.map fun width => List.replicate width line) ++ [right]

/-- The texts of the rows below the headers. -/
def rows (t : BoxTable) : List (List String) :=
  let count := (t.columns.head?.map fun column => column.texts.length).getD 0
  (List.range count).map fun row => t.columns.map fun column => column.texts.getD row ""

/-- The lines of the table, with a heavy box around its header. -/
def drawn (t : BoxTable) (width : Nat) : List (List Char) :=
  let widths := t.columnWidths width
  ruleLine '┏' '━' '┳' '┓' widths ::
    t.rowLines widths '┃' true (t.columns.map Column.header) ++
    ruleLine '┡' '━' '╇' '┩' widths ::
    t.rows.flatMap (t.rowLines widths '│' false) ++
    [ruleLine '└' '─' '┴' '┘' widths]

end BoxTable

end TieredTerms
