import Nesting.Indent
import Nesting.Text.Lines

/-!
# Listings

The lines of a text that count, each with its number and its depth. Blank lines do not count, nor
do lines that are dropped; both keep their number, so that the numbers of a listing can have gaps.
The step of the indentation is detected on all lines: dropping lines never changes a depth.
-/

namespace Nesting

/-- A line that counts. -/
structure CountedLine where
  number : Int
  depth : Int
  /-- The line without the blanks at its ends. -/
  content : String
  deriving DecidableEq, Repr

namespace CountedLine

/-- Count a line unless it is blank or dropped. -/
def ofLine? (unit : Int) (drops : Line → Bool) (l : Line) (number : Nat) : Option CountedLine :=
  if l.trim = [] ∨ drops l then none
  else some ⟨number, l.depth unit, String.ofList l.trim⟩

end CountedLine

/-- The lines that count, numbered from one. -/
def countLines (unit : Int) (drops : Line → Bool) (lines : List Line) : List CountedLine :=
  (lines.zipIdx 1).filterMap fun (l, n) => CountedLine.ofLine? unit drops l n

/-- The lines of a text that count, and the indentation their depth was measured with. -/
structure Listing where
  lines : List CountedLine
  indent : Indent
  deriving DecidableEq, Repr

namespace Listing

/-- The listing of a text that is given by its lines. -/
def ofLines (drops : Line → Bool) (lines : List Line) : Listing :=
  let indent := Indent.detect lines
  ⟨countLines indent.unit drops lines, indent⟩

def ofText (drops : Line → Bool) (text : String) : Listing :=
  ofLines drops (linesOf text)

def unit (l : Listing) : Int := l.indent.unit

def depths (l : Listing) : List Int := l.lines.map (·.depth)

end Listing

end Nesting
