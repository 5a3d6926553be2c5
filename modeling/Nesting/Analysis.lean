import Nesting.Comment
import Nesting.Log
import Nesting.Report
import Nesting.Text.Quoted

/-!
# Analyses

The whole way from a text, or a diff, to its report. An analysis keeps the listing that it was made
from, and gives the records that are logged about it. `analyzeText` and `analyzeDiff` take options
that have been read; `Request` reads them from values by name, and tells what is wrong with them.
-/

namespace Nesting

/-- What is analysed: a text as it is, or the changes that a diff makes. -/
inductive Source where
  | text
  | diff (which : Include)
  deriving DecidableEq, Repr

structure Analysis where
  source : Source
  listing : Listing
  report : Report

namespace Listing

def logRecord (l : Listing) (source : Source) : LogRecord :=
  let (which, origin) :=
    match source with
    | .text => ("", "")
    | .diff i => (i.name ++ " ", " from diff")
  .debug "parser" <|
    "Parsed " ++ intText l.lines.length ++ " counted " ++ which ++ "lines" ++ origin ++ " (indent "
      ++ quoted l.indent.text ++ ", unit " ++ intText l.unit ++ ")"

end Listing

namespace Analysis

def reportRecord (a : Analysis) : LogRecord :=
  let what := match a.source with
    | .text => "Content"
    | .diff _ => "Diff"
  .debug "api" <|
    what ++ " score " ++ fixedText 2 a.report.grade.score ++ " (" ++ a.report.level.name
      ++ ") over " ++ intText a.listing.lines.length ++ " lines"

/-- All records about an analysis, in the order in which they are logged. -/
def logRecords (a : Analysis) : List LogRecord :=
  [a.listing.logRecord a.source, a.reportRecord]

end Analysis

structure AnalysisOptions where
  /-- The pattern of the comment lines that do not count, if any. -/
  comments : Option Pattern := some Comment.defaultPattern
  thresholds : ThresholdChoice := .standard
  tier : Tier := .brief

/-- The analysis of a listing. -/
def analyzeListing (source : Source) (l : Listing) (o : AnalysisOptions) : Outcome Analysis := do
  return ⟨source, l, ← Report.build l.lines o.tier o.thresholds⟩

def analyzeText (text : String) (o : AnalysisOptions) : Outcome Analysis :=
  analyzeListing .text (Listing.ofText (Comment.drops o.comments) text) o

/-- Analyse the changes that a diff makes. -/
def analyzeDiff (which : Include) (diff : String) (o : AnalysisOptions) : Outcome Analysis :=
  analyzeListing (.diff which) (Listing.ofDiff which (Comment.drops o.comments) diff) o

end Nesting
