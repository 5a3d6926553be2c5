import Nesting.Report.Markup
import Nesting.Text.Wrapping

/-!
# Tables

A table has a row of headings between heavy lines and rows of cells between light ones. A column is
as wide as its widest cell, or as its least width, and every cell has a blank on both sides. A cell
is set to the left or to the right of its column. Tabs take no room when cells are measured, so that
a cell with tabs can turn out too wide for its column: then it takes several lines.
-/

namespace Nesting

/-- The side of a column that its cells are set to. -/
inductive Side where
  | left
  | right
  deriving DecidableEq, Repr

structure Column where
  heading : List Char
  side : Side
  minWidth : Nat
  deriving DecidableEq, Repr

/-- The four corners or crossings and the line of one horizontal rule. -/
structure Rule where
  first : Char
  line : Char
  between : Char
  last : Char
  deriving DecidableEq, Repr

namespace Rule

def top : Rule := ⟨'┏', '━', '┳', '┓'⟩

def belowHeadings : Rule := ⟨'┡', '━', '╇', '┩'⟩

def bottom : Rule := ⟨'└', '─', '┴', '┘'⟩

def draw (r : Rule) (widths : List Nat) : List Char :=
  r.first :: [r.between].intercalate (widths.map fun w => List.replicate (w + 2) r.line) ++ [r.last]

end Rule

/-- A cell in a column of some width. -/
def Side.pad (side : Side) (width : Nat) (cell : List Char) : List Char :=
  let blanks := List.replicate (width - textWidth cell) ' '
  match side with
  | left => cell ++ blanks
  | right => blanks ++ cell

/-- A row of cells, each as wide as its column, between vertical lines. -/
def drawRow (bar : Char) (cells : List (List Char)) : List Char :=
  bar :: [bar].intercalate (cells.map fun c => ' ' :: c ++ [' ']) ++ [bar]

/-- The width of a column with some cells. -/
def Column.width (c : Column) (cells : List (List Char)) : Nat :=
  ((c.heading :: cells).map textWidth).foldl max c.minWidth

/-- A row of cells in columns of some widths, as lines. A cell with fewer lines than others is
filled up with blank ones. -/
def drawCells (bar : Char) (columns : List (Column × Nat)) (cells : List (List Char)) :
    List (List Char) :=
  let set := (columns.zip cells).map fun ((c, w), cell) =>
    (fitInto w (expandTabs 0 cell)).map (c.side.pad w)
  let height := (set.map (·.length)).foldl max 0
  (List.range height).map fun i =>
    drawRow bar ((columns.zip set).map fun ((_, w), lines) => lines.getD i (List.replicate w ' '))

/-- A table as lines. Each row has a cell for each column. -/
def drawTable (columns : List Column) (rows : List (List (List Char))) : List (List Char) :=
  let widths := columns.zipIdx.map fun (c, i) => c.width (rows.map fun r => r.getD i [])
  let measured := columns.zip widths
  Rule.top.draw widths :: drawCells '┃' measured (columns.map (·.heading))
    ++ Rule.belowHeadings.draw widths :: rows.flatMap (drawCells '│' measured)
    ++ [Rule.bottom.draw widths]

end Nesting
