import Nesting.Text.Blank

/-!
# The margin of a line

A line is indented by its *margin*, the run of tabs and spaces it starts with. `Line.lead` reads
the margin as a run of one kind, up to the first character of another kind: that is what the
detection of the indentation step looks at. `Line.depth` reads the whole margin, a tab counting a
full unit of columns and a space one column.
-/

namespace Nesting

/-- What a run of indentation is made of. -/
inductive Margin where
  | space
  | tab
  deriving DecidableEq, Repr

namespace Margin

def char : Margin → Char
  | space => ' '
  | tab => '\t'

end Margin

/-- A number of indentation characters of one kind: the lead of a line, or the step between the
leads of two lines. -/
structure Run where
  kind : Margin
  length : Nat
  deriving DecidableEq, Repr

namespace Line

def margin (l : Line) : Line :=
  l.takeWhile isMargin

/-- The run of spaces, or the run of tabs, that a line starts with. -/
def lead : Line → Option Run
  | ' ' :: rest => some ⟨.space, (rest.takeWhile (· == ' ')).length + 1⟩
  | '\t' :: rest => some ⟨.tab, (rest.takeWhile (· == '\t')).length + 1⟩
  | _ => none

/-- Columns of the margin when a tab is `unit` columns wide. -/
def columns (unit : Int) (l : Line) : Int :=
  l.margin.foldr (fun c n => (if c = '\t' then unit else 1) + n) 0

/-- How many whole units the margin of a line is deep. Division rounds down, so that a margin which
is no multiple of the unit counts for the depth it has passed. -/
def depth (unit : Int) (l : Line) : Int :=
  (l.columns unit).fdiv unit

def marginTabs (l : Line) : Nat :=
  l.margin.count '\t'

def marginSpaces (l : Line) : Nat :=
  l.margin.count ' '

end Line

end Nesting
