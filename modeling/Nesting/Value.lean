import Nesting.Calendar
import Nesting.Text.Quoted

/-!
# Values

What a settings file or a caller can give for an option: nothing, a truth value, a number, a text,
a date or time, a list, or a table whose entries keep the order in which they were given. Options
are checked after they are given, so a value of any kind can reach a message, and the two texts of a
value are defined here: `quoted` shows it as source text, `display` as it is read by people.
-/

namespace Nesting

inductive Value where
  | null
  | bool (b : Bool)
  | int (n : Int)
  | float (x : Float)
  | text (s : String)
  | date (d : Date)
  | time (t : TimeOfDay)
  | moment (d : Date) (t : TimeOfDay) (offset : Option Int)
  | list (vs : List Value)
  | table (entries : List (String × Value))
  deriving Inhabited

/-- Names with something that is given under each, in the order in which they were given. -/
abbrev Named (α : Type) := List (String × α)

namespace Named

variable {α : Type}

def get? (es : Named α) (name : String) : Option α :=
  (es.find? fun e => e.1 == name).map (·.2)

def erase (es : Named α) (name : String) : Named α :=
  es.filter fun e => e.1 != name

def names (es : Named α) : List String :=
  es.map (·.1)

end Named

/-- A table: names with their values. -/
abbrev Entries := Named Value

namespace Value

def isNull : Value → Bool
  | null => true
  | _ => false

/-- The word that messages use for a kind of value. -/
def kindName : Value → String
  | null => "NoneType"
  | bool _ => "bool"
  | int _ => "int"
  | float _ => "float"
  | text _ => "str"
  | date _ => "date"
  | time _ => "time"
  | moment .. => "datetime"
  | list _ => "list"
  | table _ => "dict"

/-- Whether a value counts as yes where a plain yes or no is asked for: nothing, zero and whatever
is empty count as no. -/
def isTrue : Value → Bool
  | null => false
  | bool b => b
  | int n => n != 0
  | float x => !(x == 0)
  | text s => !s.isEmpty
  | list vs => !vs.isEmpty
  | table es => !es.isEmpty
  | date _ | time _ | moment .. => true

/-! ## What can not be written -/

/-- Why a value can not be written: a whole number in it has too many digits, or a value stands
within too many others. -/
inductive WritingFault where
  | tooManyDigits
  | tooNested
  deriving DecidableEq, Repr

/-- The most digits that a whole number is written with. -/
def maxDigits : Nat := 4300

/-- How many values can usually stand around another one that is written. -/
def usualRoom : Nat := 990

mutual

/-- What is met first that keeps a value from being written, when so many values can stand around
another one. -/
def writingFault? (room : Nat) : Value → Option WritingFault
  | int n => if n.natAbs < Nat.pow 10 maxDigits then none else some .tooManyDigits
  | list vs => listFault? room vs
  | table es => tableFault? room es
  | null | bool _ | float _ | text _ | date _ | time _ | moment .. => none

def listFault? : (room : Nat) → List Value → Option WritingFault
  | _, [] => none
  | 0, _ => some .tooNested
  | room + 1, v :: vs => (writingFault? room v).or (listFault? (room + 1) vs)

def tableFault? : (room : Nat) → Entries → Option WritingFault
  | _, [] => none
  | 0, _ => some .tooNested
  | room + 1, (_, v) :: es => (writingFault? room v).or (tableFault? (room + 1) es)

end

/-- A date and time by its parts. -/
def momentParts (d : Date) (t : TimeOfDay) (offset : Option Int) : String :=
  "datetime.datetime(" ++ commaSeparated (d.parts ++ t.parts)
    ++ (offset.elim "" fun o => ", tzinfo=" ++ offsetParts o) ++ ")"

mutual

/-- A value as source text. -/
def quoted : Value → String
  | null => "None"
  | bool b => if b then "True" else "False"
  | int n => intText n
  | float x => plainText x
  | text s => Nesting.quoted s
  | date d => "datetime.date(" ++ commaSeparated d.parts ++ ")"
  | time t => "datetime.time(" ++ commaSeparated t.parts ++ ")"
  | moment d t o => momentParts d t o
  | list vs => "[" ++ ", ".intercalate (quotedAll vs) ++ "]"
  | table es => "\x7b" ++ ", ".intercalate (quotedEntries es) ++ "\x7d"

def quotedAll : List Value → List String
  | [] => []
  | v :: vs => quoted v :: quotedAll vs

def quotedEntries : Entries → List String
  | [] => []
  | (k, v) :: es => (Nesting.quoted k ++ ": " ++ quoted v) :: quotedEntries es

end

/-- A value as people read it: a text as it is, a date or time plainly, all else as source text. -/
def display : Value → String
  | text s => s
  | date d => d.text
  | time t => t.text
  | moment d t o => d.text ++ " " ++ t.text ++ o.elim "" offsetText
  | v => quoted v

end Value

namespace Entries

/-- Give a value under a name. A name given before keeps its place. -/
def put (name : String) (v : Value) : Entries → Entries
  | [] => [(name, v)]
  | e :: es => if e.1 = name then (name, v) :: es else e :: put name v es

/-- Give all values of another table. -/
def putAll (es others : Entries) : Entries :=
  others.foldl (fun es e => put e.1 e.2 es) es

end Entries

end Nesting
