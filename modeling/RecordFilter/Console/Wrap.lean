import RecordFilter.Console.Line

/-!
# Broken lines

Text in a column of a table is broken between words where the next word does not fit. A word that is
wider than the column is cut off, with an ellipsis in its last cell. Each line is filled with blanks
to the width of the column.

Text that is to be broken at the end of the console is broken between words too. But a word that is
wider than the console is folded: it starts a line, and goes on in the next where the line is full.
-/

namespace RecordFilter.Console

open Text

/-- The words of a line. A word keeps the blanks behind it, and the first one those before it too; a
line of blanks has no word. -/
def lineWords (s : List Char) : List (List Char) := go s.length s
where
  go : Nat → List Char → List (List Char)
    | 0, _ => []
    | fuel + 1, s =>
      let lead := s.takeWhile isBlank
      let body := (s.drop lead.length).takeWhile fun c => !isBlank c
      let rest := s.drop (lead.length + body.length)
      let tail := rest.takeWhile isBlank
      if body.isEmpty then []
      else (lead ++ body ++ tail) :: go fuel (rest.drop tail.length)

/-- A word in pieces, none of which is wider than a line if no character is. The first two arguments
are the piece being filled and its cells. -/
def foldWord (width : Nat) : List Char → Nat → List Char → List (List Char)
  | piece, _, [] => [piece]
  | piece, used, c :: s =>
    if used + cellWidth c ≤ width then foldWord width (piece ++ [c]) (used + cellWidth c) s
    else piece :: foldWord width [c] (cellWidth c) s

/-- Put words into lines; `fold` says that words which are too wide are folded. The two arguments
behind the width are the line being filled and its cells. -/
def fillLines (fold : Bool) (width : Nat) : List Char → Nat → List (List Char) → List (List Char)
  | line, _, [] => [line]
  | line, used, word :: rest =>
    let size := cells (dropTrailingBlanks word)
    if used + size ≤ width then fillLines fold width (line ++ word) (used + cells word) rest
    else if fold && width < size then
      let pieces := foldWord width [] 0 word
      let last := pieces.getLastD []
      (if line.isEmpty then [] else [line]) ++ pieces.dropLast ++
        fillLines fold width last (cells last) rest
    else if line.isEmpty then
      fillLines fold width word (if width < size then cells word else used) rest
    else line :: fillLines fold width word (cells word) rest

def breakLine (fold : Bool) (width : Nat) (s : List Char) : List (List Char) :=
  match lineWords s with
  | [] => [s]
  | ws => fillLines fold width [] 0 ws

/-- Search for the characters that fill exactly `total` cells; a wide one that would stick out gives
way to a blank. The text takes up more than `total` cells. -/
def cutAt (s : List Char) (total : Nat) : Nat → (start finish : Nat) → List Char
  | 0, start, _ => s.take start
  | fuel + 1, start, finish =>
    let pos := (start + finish) / 2
    let before := s.take (pos + 1)
    let size := cells before
    let lastWidth := (before.getLast?.map cellWidth).getD 0
    if size = total + 1 ∧ lastWidth = 2 then before.dropLast ++ [' ']
    else if size = total then before
    else if size > total then cutAt s total fuel start pos
    else cutAt s total fuel pos finish

/-- The text cut or filled to exactly `total` cells. -/
def setCells (s : List Char) (total : Nat) : List Char :=
  let size := cells s
  if total = 0 then []
  else if size ≤ total then s ++ List.replicate (total - size) ' '
  else cutAt s total (s.length + 1) 0 s.length

/-- One line of a column. -/
def fitLine (width : Nat) (s : List Char) : List Char :=
  let s := cropBlanks width s
  if cells s ≤ width then s ++ List.replicate (width - cells s) ' '
  else setCells s (width - 1) ++ ['…']

/-- The lines of a text in a column. -/
def columnLines (width : Nat) (s : List Char) : List (List Char) :=
  if width = 0 then []
  else
    (splitLines s).flatMap fun line =>
      (breakLine false width (expandTabs 0 line)).map fun l => setCells (fitLine width l) width

/-- Console text whose shortcodes become pictures, broken at the end of the console. -/
def folded (width : Nat) (s : String) : String :=
  let shown (l : List Char) : List Char :=
    let l := cropBlanks width l
    if cells l ≤ width then l else setCells l width
  let lines := (splitLines (dropControls (withPictures s.toList))).flatMap fun line =>
    (breakLine true width (expandTabs 0 line)).map shown
  if width = 0 then "" else String.ofList (joinLines lines ++ ['\n'])

end RecordFilter.Console
