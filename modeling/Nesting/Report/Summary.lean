import Nesting.Report.Json
import Nesting.Report.Table

/-!
# Reports for people

A table with a row for each source, and below it for each source the reason for its level, how
often each depth occurs, and the lines themselves, as far as its report has them. They are written
for a terminal that is wide enough for them.
-/

namespace Nesting

/-- A text as the markup that shows it. -/
def escaped (s : String) : List Char :=
  Markup.escape s.toList

/-- A text between the tags of a style. -/
def styled (style : String) (markup : List Char) : List Char :=
  let name := style.toList
  '[' :: name ++ ']' :: markup ++ '[' :: '/' :: name ++ [']']

/-! ## The table -/

/-- The columns of every table. -/
def briefColumns : List Column :=
  [⟨"Source".toList, .left, 20⟩, ⟨"Score".toList, .right, 0⟩, ⟨"Level".toList, .left, 0⟩]

/-- The columns for the measures. -/
def measureColumns : List Column :=
  ["Lines", "Max", "Mean", "Median", "Std dev"].map fun h => ⟨h.toList, .right, 0⟩

namespace Level

def color : Level → String
  | low => "green"
  | medium => "yellow"
  | high => "red"

/-- A level as the markup of a cell. -/
def markup (l : Level) : List Char :=
  styled l.color (l.name.toList.map Char.toUpper)

end Level

namespace Measures

def cells (m : Measures) : List (List Char) :=
  [intText m.lineCount, intText m.max, fixedText 2 m.moments.mean, generalText m.moments.median,
    fixedText 2 m.deviation].map String.toList

/-- How often each depth occurs. -/
def countsText (m : Measures) : String :=
  "  ".intercalate (m.counts.map fun (depth, n) => intText depth ++ ":" ++ intText n)

end Measures

namespace LabelledReport

/-- The cells of a row, as markup. The cells for measures are empty when there are none. -/
def cells (wide : Bool) (r : LabelledReport) : List (List Char) :=
  [escaped r.label, (fixedText 2 r.report.grade.score).toList, r.report.level.markup]
    ++ if wide then (r.report.measures?.map Measures.cells).getD (measureColumns.map fun _ => [])
      else []

end LabelledReport

/-- The table of reports. It is wide when some report has measures. -/
def summaryTable (pictures : Pictures) (rs : List LabelledReport) : List (List Char) :=
  let wide := rs.any (·.report.measures?.isSome)
  let cell (markup : List Char) : List Char :=
    (Markup.pictured pictures markup).filter fun c => !isHiddenControl c
  drawTable (briefColumns ++ if wide then measureColumns else [])
    (rs.map fun r => (r.cells wide).map cell)

/-! ## Below the table -/

/-- A number, set to the right of some columns. -/
def rightNumber (width : Nat) (n : Int) : List Char :=
  Side.right.pad width (intText n).toList

/-- A line of a listing as markup: its number, its depth, a bar for each level, the line. -/
def CountedLine.markup (l : CountedLine) : List Char :=
  let bars := (List.replicate l.depth.toNat ['│', ' ']).flatten
  [' ', ' '] ++ styled "dim" (rightNumber 5 l.number) ++
    ' ' :: styled "cyan" (rightNumber 2 l.depth)
    ++ [' ', ' '] ++ styled "dim" bars ++ escaped l.content

namespace LabelledReport

/-- The reason for a level as markup, with the label in front where there are several. -/
def reasonMarkup (several : Bool) (r : LabelledReport) : List Char :=
  let reason := r.report.grade.reason.toList
  if several then styled "bold" (escaped r.label) ++ [':', ' '] ++ reason else reason

/-- All that stands below the table about a report, as markup, a line each. -/
def detailMarkup (several : Bool) (r : LabelledReport) : List (List Char) :=
  let counts := match r.report.measures? with
    | some m =>
      if m.counts = [] then []
      else [[' ', ' '] ++ styled "dim" "depths".toList ++ ' ' :: m.countsText.toList]
    | none => []
  r.reasonMarkup several :: counts ++ ((r.report.lines?.getD []).map CountedLine.markup)

end LabelledReport

/-- Reports in the form for people. -/
def reportsSummary (pictures : Pictures) (rs : List LabelledReport) : String :=
  let table := summaryTable pictures rs
  let details := rs.flatMap (·.detailMarkup (1 < rs.length))
  "\n" ++ String.join (table.map fun l => String.ofList (l ++ ['\n']))
    ++ String.join (details.map (printed pictures))

end Nesting
