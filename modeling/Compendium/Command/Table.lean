import Compendium.Text
import Compendium.Unicode.Width

/-!
# Tables

A table is drawn with lines between its cells.  A column is as wide as its widest cell, and a
row as high as its highest one.
-/

namespace Compendium.Command

/-- A cell of a table. -/
structure Cell where
  lines : List (List Char)
  /-- Whether the text stands at the right end of the cell. -/
  atRight : Bool

namespace Cell

/-- The cell of a text. -/
def ofText (text : String) (atRight : Bool) : Cell := ⟨Text.pieces '\n' text.toList, atRight⟩

/-- The columns that a cell needs. -/
def width (c : Cell) : Nat := (c.lines.map Unicode.width).foldl max 0

/-- A line of a cell, filled up to `width` columns and with a blank on either side. -/
def fill (c : Cell) (width : Nat) (line : List Char) : List Char :=
  let gap := List.replicate (width - Unicode.width line) ' '
  [' '] ++ (if c.atRight then gap ++ line else line ++ gap) ++ [' ']

end Cell

namespace Table

/-- The signs that a rule across a table is drawn with. -/
structure Rule where
  left : Char
  dash : Char
  crossing : Char
  right : Char

/-- The rule above a table. -/
def top : Rule := ⟨'┌', '─', '┬', '┐'⟩

/-- The rule below the titles. -/
def belowTitles : Rule := ⟨'╞', '═', '╪', '╡'⟩

/-- The rule between two rows. -/
def between : Rule := ⟨'├', '╌', '┼', '┤'⟩

/-- The rule below a table. -/
def bottom : Rule := ⟨'└', '─', '┴', '┘'⟩

/-- A rule over columns of the given widths. -/
def Rule.draw (r : Rule) (widths : List Nat) : List Char :=
  [r.left]
    ++ Text.join [r.crossing] (widths.map fun width => List.replicate (width + 2) r.dash)
    ++ [r.right]

/-- The line of a number of a row. -/
def rowLine (widths : List Nat) (row : List Cell) (number : Nat) : List Char :=
  ['│']
    ++ Text.join ['┆'] ((row.zip widths).map fun (cell, width) =>
      cell.fill width ((cell.lines[number]?).getD []))
    ++ ['│']

/-- The lines of a row. -/
def rowLines (widths : List Nat) (row : List Cell) : List (List Char) :=
  let height := (row.map fun cell => cell.lines.length).foldl max 0
  (List.range height).map (rowLine widths row)

/-- The widths of the columns of rows. -/
def columnWidths (columns : Nat) (rows : List (List Cell)) : List Nat :=
  (List.range columns).map fun column =>
    (rows.filterMap fun row => (row[column]?).map Cell.width).foldl max 0

/-- The lines of rows, with a rule between each two. -/
def bodyLines (widths : List Nat) : List (List Cell) → List (List Char)
  | [] => []
  | [row] => rowLines widths row
  | row :: rest => rowLines widths row ++ [between.draw widths] ++ bodyLines widths rest

/-- A table of titles and rows. -/
def draw (titles : List Cell) (rows : List (List Cell)) : String :=
  let widths := columnWidths titles.length (titles :: rows)
  let lines := [top.draw widths] ++ rowLines widths titles ++ [belowTitles.draw widths]
    ++ bodyLines widths rows ++ [bottom.draw widths]
  String.ofList (Text.join ['\n'] lines)

end Table

end Compendium.Command
