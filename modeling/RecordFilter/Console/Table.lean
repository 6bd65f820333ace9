import RecordFilter.Console.Wrap

/-!
# Tables

A table has columns of equal heading or none, and rows of cells. Every cell is as wide as the widest
of its column, with a blank on either side; if the table does not fit the console, which has `across`
cells in a line, the widest columns give way first. A table with headings is drawn in a box, one
without is not.
-/

namespace RecordFilter.Console

open Text

/-- A table whose rows have as many cells as there are columns. -/
structure Table where
  headings : Option (List (List Char))
  columns : Nat
  rows : List (List (List Char))

namespace Table

/-- Headings and rows, top to bottom. -/
def allRows (t : Table) : List (List (List Char)) := t.headings.toList ++ t.rows

/-- The cells of a column, top to bottom. -/
def column (t : Table) (i : Nat) : List (List Char) := t.allRows.map fun row => row[i]?.getD []

/-- The blanks at the two sides of a cell. -/
def padding : Nat := 2

/-- The cells that are left for columns in a box. -/
def roomInBox (across columns : Nat) : Nat := across - (columns + 1)

/-- Can a cell show a character, in a box with this many columns? If not, no cell of the table can.
-/
def showsHeadings (across columns : Nat) : Bool := padding < roomInBox across columns

/-- The characters that end a line when a text is measured. -/
def endsLine (c : Char) : Bool :=
  c == '\n' || [0x0b, 0x0c, 0x0d, 0x1c, 0x1d, 0x1e, 0x85, 0x2028, 0x2029].contains c.toNat

/-- The cells of the widest line. The first argument is the line being measured. -/
def widestLine : Nat → List Char → Nat
  | line, [] => line
  | line, c :: s => if endsLine c then max line (widestLine 0 s) else widestLine (line + cellWidth c) s

/-- The width that a cell asks for if there are `available` cells. -/
def cellRequest (available : Nat) (s : List Char) : Nat :=
  if available ≤ padding then available
  else min (min (widestLine 0 s) available + padding) available

/-- The width that a column asks for. A column without cells takes all there is. -/
def columnRequest (available : Nat) (column : List (List Char)) : Nat :=
  if column.isEmpty then available else (column.map (cellRequest available)).foldl max 0

/-- The quotient rounded to the nearest, and to the even neighbour if both are equally near. -/
def roundDiv (n d : Nat) : Nat :=
  let q := n / d
  let r := n % d
  if 2 * r < d then q else if d < 2 * r then q + 1 else if q % 2 = 0 then q else q + 1

/-- Take `total` away from the values that have a share, in equal parts and at most `limit` from
each. -/
def reduceEvenly : (total shares : Nat) → List (Bool × Nat × Nat) → List Nat
  | _, _, [] => []
  | total, shares, (share, limit, value) :: rest =>
    if share && 0 < shares then
      let part := min limit (roundDiv total shares)
      (value - part) :: reduceEvenly (total - part) (shares - 1) rest
    else value :: reduceEvenly total shares rest

def countShares (slots : List (Bool × Nat × Nat)) : Nat := (slots.filter fun s => s.1 && s.2.1 != 0).length

/-- A slot without a limit above zero has no share. -/
def reduceAll (total : Nat) (slots : List (Bool × Nat × Nat)) : List Nat :=
  reduceEvenly total (countShares slots) (slots.map fun (share, limit, v) => (share && limit != 0, limit, v))

/-- The cells that columns of these widths take up together. -/
def together (widths : List Nat) : Nat := widths.foldr (· + ·) 0

/-- Bring the widest columns down to the next widest, until the widths fit or are all equal. -/
def collapse (available : Nat) : Nat → List Nat → List Nat
  | 0, widths => widths
  | fuel + 1, widths =>
    let excess := together widths - available
    let widest := widths.foldl max 0
    let next := (widths.map fun w => if w = widest then 0 else w).foldl max 0
    if together widths = 0 ∨ excess = 0 ∨ widest = next then widths
    else
      let limit := min excess (widest - next)
      collapse available fuel (reduceAll excess (widths.map fun w => (w = widest, limit, w)))

/-- The cells that are left for the columns. -/
def room (across : Nat) (t : Table) : Nat :=
  if t.headings.isSome then roomInBox across t.columns else across

/-- The widths of the columns. -/
def widths (across : Nat) (t : Table) : List Nat :=
  let available := t.room across
  let columns := (List.range t.columns).map t.column
  let wanted := columns.map fun c => max 1 (columnRequest available c)
  if together wanted ≤ available then wanted
  else
    let collapsed := collapse available (together wanted + 1) wanted
    let fitted :=
      if together collapsed ≤ available then collapsed
      else reduceAll (together collapsed - available) (collapsed.map fun w => (true, w, w))
    (fitted.zip columns).map fun (w, c) => columnRequest w c

/-- The lines of a cell, with a blank on either side. A cell without room for a character is empty.
-/
def cellLines (width : Nat) (s : List Char) : List (List Char) :=
  (columnLines (width - padding) s).map fun l => ' ' :: l ++ [' ']

/-- The lines of a row: each cell has its lines at the top, or at the bottom if it is a heading. -/
def rowLines (heading : Bool) (widths : List Nat) (row : List (List Char)) : List (List (List Char)) :=
  let blocks := (widths.zip row).map fun (w, s) => (w, cellLines w s)
  let height := (blocks.map fun b => b.2.length).foldl max 1
  let shaped := blocks.map fun (w, lines) =>
    let blank := List.replicate (height - lines.length) (List.replicate w ' ')
    if heading then blank ++ lines else lines ++ blank
  (List.range height).map fun i => shaped.map fun block => block[i]?.getD []

/-- A line of the box: the corners, what runs along it and what stands between two columns. -/
def rule (left along between right : Char) (widths : List Nat) : List Char :=
  left :: [between].intercalate (widths.map fun w => List.replicate w along) ++ [right]

def barred (bar : Char) (line : List (List Char)) : List Char :=
  bar :: [bar].intercalate line ++ [bar]

/-- The lines of the table. -/
def lines (across : Nat) (t : Table) : List (List Char) :=
  let ws := t.widths across
  match t.headings with
  | none => (t.rows.flatMap (rowLines false ws)).map List.flatten
  | some headings =>
    if t.columns = 0 then [[]]
    else
      rule '┏' '━' '┳' '┓' ws :: (rowLines true ws headings).map (barred '┃') ++
        rule '┡' '━' '╇' '┩' ws :: (t.rows.flatMap (rowLines false ws)).map (barred '│') ++
        [rule '└' '─' '┴' '┘' ws]

def text (across : Nat) (t : Table) : String :=
  if across = 0 then "" else String.ofList ((t.lines across).flatMap fun l => l ++ ['\n'])

end Table

end RecordFilter.Console
