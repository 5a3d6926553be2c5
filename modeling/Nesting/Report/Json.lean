import Nesting.Report

/-!
# Reports as JSON

The machine-readable form of reports. `jsonText` writes a value over several lines, two blanks to a
level, in plain characters only; what has no items is written on one line. The report of a single
source is written as an object of its own, all else as a list.
-/

namespace Nesting

/-- Half of a surrogate pair, or a code point of four digits, as JSON escapes it. -/
def jsonUnit (n : Nat) : List Char :=
  '\\' :: 'u' :: hexText 4 n

/-- A character as it stands in a JSON text. -/
def jsonChar (c : Char) : List Char :=
  let n := c.toNat
  if c = '"' ∨ c = '\\' then ['\\', c]
  else if c = '\n' then ['\\', 'n']
  else if c = '\r' then ['\\', 'r']
  else if c = '\t' then ['\\', 't']
  else if n = 0x08 then ['\\', 'b']
  else if n = 0x0c then ['\\', 'f']
  else if 0x20 ≤ n ∧ n < 0x7f then [c]
  else if n < 0x10000 then jsonUnit n
  else jsonUnit (0xd800 + (n - 0x10000) / 0x400) ++ jsonUnit (0xdc00 + (n - 0x10000) % 0x400)

/-- A text as a JSON text. -/
def jsonQuoted (s : String) : String :=
  String.ofList ('"' :: s.toList.flatMap jsonChar ++ ['"'])

/-- A double as a JSON number, or as the word for what is none. -/
def jsonFloat (x : Float) : String :=
  match Binary64.ofFloat x with
  | .nan => "NaN"
  | .infinite negative => if negative then "-Infinity" else "Infinity"
  | .finite .. => plainText x

/-- The start of a line at a level. -/
def jsonMargin (level : Nat) : String :=
  String.ofList (List.replicate (2 * level) ' ')

/-- What stands between two brackets, an item to a line. -/
def jsonBlock (opening closing : String) (level : Nat) (items : List String) : String :=
  if items = [] then opening ++ closing
  else
    opening ++ "\n" ++ ",\n".intercalate (items.map (jsonMargin (level + 1) ++ ·)) ++ "\n"
      ++ jsonMargin level ++ closing

mutual

def jsonText (level : Nat) : Value → String
  | .null => "null"
  | .bool b => if b then "true" else "false"
  | .int n => intText n
  | .float x => jsonFloat x
  | .text s => jsonQuoted s
  | .list vs => jsonBlock "[" "]" level (jsonItems (level + 1) vs)
  | .table es => jsonBlock "\x7b" "\x7d" level (jsonEntries (level + 1) es)
  | .date d => jsonQuoted (Value.date d).display
  | .time t => jsonQuoted (Value.time t).display
  | .moment d t o => jsonQuoted (Value.moment d t o).display

def jsonItems (level : Nat) : List Value → List String
  | [] => []
  | v :: vs => jsonText level v :: jsonItems level vs

def jsonEntries (level : Nat) : Entries → List String
  | [] => []
  | (k, v) :: es => (jsonQuoted k ++ ": " ++ jsonText level v) :: jsonEntries level es

end

/-! ## Reports as values -/

namespace Grade

def entries (g : Grade) : Entries :=
  [("score", .float g.score), ("level", .text g.level.name), ("reason", .text g.reason)]

end Grade

namespace Measures

def entries (m : Measures) : Entries :=
  [("line_count", .int m.lineCount), ("max", .int m.max), ("variance", .float m.moments.variance),
    ("mean", .float m.moments.mean), ("std_dev", .float m.deviation),
    ("median", .float m.moments.median), ("sum", .int m.sum),
    ("depth_histogram", .table (m.counts.map fun (depth, n) => (intText depth, .int n)))]

end Measures

namespace CountedLine

def value (l : CountedLine) : Value :=
  .table [("line", .int l.number), ("depth", .int l.depth), ("content", .text l.content)]

end CountedLine

namespace Report

/-- A report by the names of its parts. Each tier starts with all of the tier before it. -/
def entries : Report → Entries
  | brief g => g.entries
  | full g m => g.entries ++ m.entries
  | listed g m ls => g.entries ++ m.entries ++ [("lines", .list (ls.map CountedLine.value))]

end Report

/-- A report with the name of what it is about. -/
structure LabelledReport where
  label : String
  report : Report

namespace LabelledReport

def value (r : LabelledReport) : Value :=
  .table (("source", .text r.label) :: r.report.entries)

end LabelledReport

def reportsValue : List LabelledReport → Value
  | [r] => r.value
  | rs => .list (rs.map (·.value))

def reportsJson (rs : List LabelledReport) : String :=
  jsonText 0 (reportsValue rs) ++ "\n"

end Nesting
