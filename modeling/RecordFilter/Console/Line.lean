import RecordFilter.Console.Cell
import RecordFilter.Console.Shortcode

/-!
# Lines of console text

Text for the console is cleaned of the controls that would move the cursor, and split into lines. A
line that runs past the width of the console is not broken; only blanks at its end are dropped, as
many as stand past the width. Tabs become blanks up to the next of the tab stops, which are eight
cells apart. On a console that is no cell wide nothing is shown at all.
-/

namespace RecordFilter.Console

open Text

/-- Bell, backspace, vertical tab, form feed and carriage return. -/
def isCursorControl (c : Char) : Bool := [7, 8, 11, 12, 13].contains c.toNat

def dropControls (s : List Char) : List Char := s.filter fun c => !isCursorControl c

/-- The lines between line feeds. -/
def splitLines : List Char → List (List Char)
  | [] => [[]]
  | c :: s =>
    if c = '\n' then [] :: splitLines s
    else
      match splitLines s with
      | line :: lines => (c :: line) :: lines
      | [] => [[c]]

/-- Lines with a line feed between them. -/
def joinLines (lines : List (List Char)) : List Char := ['\n'].intercalate lines

/-- The distance between tab stops. -/
def tabStop : Nat := 8

/-- Blanks in place of tabs, in a line that starts at the given cell. -/
def expandTabs : (column : Nat) → List Char → List Char
  | _, [] => []
  | column, c :: s =>
    if c = '\t' then
      let past := column + 1
      let fill := (tabStop - past % tabStop) % tabStop
      List.replicate (fill + 1) ' ' ++ expandTabs (past + fill) s
    else c :: expandTabs (column + cellWidth c) s

/-- Drop the blanks at the end that stand past the given number of characters. -/
def cropBlanks (width : Nat) (s : List Char) : List Char :=
  let blanks := s.length - (dropTrailingBlanks s).length
  s.take (s.length - min blanks (s.length - width))

/-- Text as a console with `width` cells across shows it, without breaking lines, and a line feed
behind it. -/
def unbroken (width : Nat) (s : List Char) : List Char :=
  let lines := (splitLines (dropControls s)).map fun l => cropBlanks width (expandTabs 0 l)
  joinLines lines ++ ['\n']

/-- Console text whose shortcodes become pictures. -/
def printed (width : Nat) (s : String) : String :=
  if width = 0 then "" else String.ofList (unbroken width (withPictures s.toList))

/-- A line that fits is left as it is. -/
theorem cropBlanks_of_le {width : Nat} {s : List Char} (h : s.length ≤ width) :
    cropBlanks width s = s := by
  simp [cropBlanks, Nat.sub_eq_zero_of_le h]

end RecordFilter.Console
