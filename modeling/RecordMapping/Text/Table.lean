import RecordMapping.Text.Terminal
import RecordMapping.Text.Width

/-!
# RecordMapping.Text.Table — tables of text with rounded corners

A column is as wide as its widest line, and at least one column wide; a blank stands on either side
of a cell.  A cell of several lines makes its row as high as it needs.  A line is as wide as what a
terminal shows of it, and its styles end with it.
-/

namespace RecordMapping.Text

inductive Alignment
  | left
  | right
  deriving DecidableEq, Repr

/-- A column's heading, and how its cells are aligned. -/
structure TableColumn where
  heading : String
  alignment : Alignment := .left
  deriving DecidableEq, Repr

/-- Every row has a cell for each column. -/
structure Table where
  columns : List TableColumn
  rows : List (List String)
  deriving DecidableEq, Repr

namespace Table

/-! ### Sizes -/

def lines (cell : String) : List String :=
  (Terminal.resumed [] ((cell.splitOn "\n").map String.toList)).map String.ofList

def lineWidth (line : String) : Nat := width (Terminal.shown line)

/-- The width of the widest line. -/
def cellWidth (cell : String) : Nat := ((lines cell).map lineWidth).foldl max 0

/-- The cells of one column, its heading first. -/
def columnCells (t : Table) (i : Nat) (c : TableColumn) : List String :=
  c.heading :: t.rows.map fun row => (row[i]?).getD ""

def columnWidths (t : Table) : List Nat :=
  t.columns.mapIdx fun i c => ((t.columnCells i c).map cellWidth).foldl max 1

/-! ### Lines -/

def spaces (n : Nat) : String := "".pushn ' ' n

def pad (alignment : Alignment) (columns : Nat) (s : String) : String :=
  match alignment with
  | .left => s ++ spaces (columns - lineWidth s)
  | .right => spaces (columns - lineWidth s) ++ s

/-- A line across the table between its cells. -/
def rule (first dash cross last : String) (widths : List Nat) : String :=
  first ++ cross.intercalate (widths.map fun w => String.join (List.replicate (w + 2) dash)) ++ last

/-- The lines of one row; a cell with fewer lines than the row goes on with blank ones. -/
def rowLines (alignments : List Alignment) (widths : List Nat) (cells : List String) :
    List String :=
  let split := cells.map lines
  let height := (split.map List.length).foldl max 0
  (List.range height).map fun i =>
    let parts := (split.zip (alignments.zip widths)).map fun (cell, alignment, w) =>
      " " ++ pad alignment w ((cell[i]?).getD "") ++ " "
    "│" ++ "┆".intercalate parts ++ "│"

def renderLines (t : Table) : List String :=
  let widths := t.columnWidths
  let alignments := t.columns.map TableColumn.alignment
  [rule "╭" "─" "┬" "╮" widths] ++
    rowLines alignments widths (t.columns.map TableColumn.heading) ++
    [rule "╞" "═" "╪" "╡" widths] ++
    t.rows.flatMap (rowLines alignments widths) ++
    [rule "╰" "─" "┴" "╯" widths]

def render (t : Table) : String := "\n".intercalate t.renderLines

end Table

end RecordMapping.Text
