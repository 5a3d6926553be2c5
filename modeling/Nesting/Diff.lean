import Nesting.Listing

/-!
# Diffs

In a unified diff only the lines that were added or deleted are code that changed; the rest is
headers and context. The step of the indentation is detected on all changed lines, with their marks
taken off (`Diff.codeLines`), and the listing counts those of them that were asked for. Their
numbers are counted among the lines that were asked for, so they are places in neither of the two
files.

`DiffCount` is the state of that count between two lines and `DiffCount.add` its step. Which lines
are counted (`Include.passes`) and which lines the step is detected on are tested apart from each
other: a header is told by all that it may start with for the one, and by the names of the two files
for the other.
-/

namespace Nesting

/-- The mark that a changed line starts with. -/
inductive Mark where
  | added
  | deleted
  deriving DecidableEq, Repr

namespace Mark

def char : Mark → Char
  | added => '+'
  | deleted => '-'

def isOn (m : Mark) (l : Line) : Bool :=
  [m.char].isPrefixOf l

end Mark

namespace Diff

/-- What headers start with. -/
def headerStarts : List (List Char) :=
  ["diff ".toList, "index ".toList, "+++".toList, "---".toList, "@@".toList]

def isHeader (l : Line) : Bool :=
  headerStarts.any (·.isPrefixOf l)

/-- What the headers that name the two files start with. -/
def fileStarts : List (List Char) :=
  ["+++".toList, "---".toList]

/-- The changed lines of a diff, with their marks taken off. -/
def codeLines (diff : List Line) : List Line :=
  (diff.filter fun l =>
    (Mark.added.isOn l || Mark.deleted.isOn l) && !fileStarts.any (·.isPrefixOf l)).map (·.drop 1)

end Diff

/-- Which changes of a diff are asked for. -/
inductive Include where
  | additions
  | deletions
  | both
  deriving DecidableEq, Repr

namespace Include

/-- All choices, in the order in which messages list them. -/
def all : List Include := [additions, deletions, both]

def name : Include → String
  | additions => "additions"
  | deletions => "deletions"
  | both => "both"

/-- The choice with a name. -/
def ofName? (s : String) : Option Include :=
  all.find? (·.name == s)

def names : String :=
  ", ".intercalate (all.map name)

/-- Whether a line starts with a mark that is asked for. -/
def takes : Include → Line → Bool
  | additions, l => Mark.added.isOn l
  | deletions, l => Mark.deleted.isOn l
  | both, l => Mark.added.isOn l || Mark.deleted.isOn l

/-- Whether a line of a diff is asked for. A header is not, even if it starts with a mark. -/
def passes (which : Include) (l : Line) : Bool :=
  !Diff.isHeader l && which.takes l

end Include

/-- What the count of a diff keeps between two lines: how many lines were asked for up to here, and
those of them that count, the last one first. -/
structure DiffCount where
  number : Nat := 0
  counted : List CountedLine := []
  deriving DecidableEq, Repr

namespace DiffCount

/-- Count a line of a diff. A line that is asked for takes up a number even if it is blank or
dropped. -/
def add (which : Include) (unit : Int) (drops : Line → Bool) (s : DiffCount) (l : Line) :
    DiffCount :=
  if which.passes l then
    let number := s.number + 1
    ⟨number, (CountedLine.ofLine? unit drops (l.drop 1) number).toList ++ s.counted⟩
  else s

/-- Count all lines of a diff. -/
def ofLines (which : Include) (unit : Int) (drops : Line → Bool) (diff : List Line) : DiffCount :=
  diff.foldl (add which unit drops) {}

end DiffCount

namespace Listing

/-- The listing of a diff that is given by its lines. -/
def ofDiffLines (which : Include) (drops : Line → Bool) (diff : List Line) : Listing :=
  let indent := Indent.detect (Diff.codeLines diff)
  ⟨(DiffCount.ofLines which indent.unit drops diff).counted.reverse, indent⟩

def ofDiff (which : Include) (drops : Line → Bool) (diff : String) : Listing :=
  ofDiffLines which drops (linesOf diff)

end Listing

end Nesting
