import Nesting.Decimal.Layout

/-!
# Log records

Records are filed under the name of the part that wrote them, all of them below one root. How a
program is set up decides which records are shown: the level, and the file that they are written to
besides, if any. Records of names that only begin like the root are not below it.
-/

namespace Nesting

namespace LogLevel

/-! Levels are numbers, so that there can be others between those that have a name. -/

def debug : Nat := 10

def info : Nat := 20

def warning : Nat := 30

def error : Nat := 40

def critical : Nat := 50

def name (level : Nat) : String :=
  if level = debug then "DEBUG"
  else if level = info then "INFO"
  else if level = warning then "WARNING"
  else if level = error then "ERROR"
  else if level = critical then "CRITICAL"
  else "Level " ++ intText level

end LogLevel

/-- The root of all names. -/
def logRoot : String := "indent_complexity"

/-- The full name of a part. A name that begins like the root is full already. -/
def logName : Option String → String
  | none => logRoot
  | some name => if name.startsWith logRoot then name else logRoot ++ "." ++ name

structure LogRecord where
  name : String
  level : Nat
  message : String
  deriving DecidableEq, Repr

namespace LogRecord

/-- A record of a part, for those who look closely. -/
def debug (part message : String) : LogRecord :=
  ⟨logName (some part), LogLevel.debug, message⟩

/-- A record as a line of a file, apart from the time in front of it. -/
def text (r : LogRecord) : String :=
  r.name ++ " - " ++ LogLevel.name r.level ++ " - " ++ r.message

/-- The names above a name whose characters are given from the last to the first. A name is cut at
its dots, but a dot right before another one that it was cut at does not count. -/
def namesAbove (reversed : List Char) : List (List Char) :=
  match _h : reversed.dropWhile (· != '.') with
  | [] => []
  | _ :: above => above.reverse :: namesAbove above.tail
termination_by reversed.length
decreasing_by
  have := (List.dropWhile_sublist (l := reversed) (· != '.')).length_le
  simp only [_h, List.length_cons] at this
  simp only [List.length_tail]
  omega

/-- Whether a record is at the root or below it. -/
def isFiled (r : LogRecord) : Bool :=
  r.name == logRoot || (namesAbove r.name.toList.reverse).contains logRoot.toList

end LogRecord

structure LogSetup where
  level : Nat
  file? : Option String
  deriving DecidableEq, Repr

namespace LogSetup

/-- The setup that is asked for. Being quiet wins over being verbose, and a file without a name is
no file. -/
def of (debug quiet : Bool) (file? : Option String) : LogSetup where
  level := if quiet then LogLevel.error else if debug then LogLevel.debug else LogLevel.warning
  file? := file?.filter (!·.isEmpty)

/-- Whether a record is shown. -/
def shows (s : LogSetup) (r : LogRecord) : Bool :=
  r.isFiled && s.level ≤ r.level

end LogSetup

end Nesting
