import Nesting.Decimal.Layout

/-!
# Dates and times

Calendar dates, times of day to the microsecond, and both together with an optional offset from
universal time in minutes: the values a settings file may hold besides numbers and text. Each has
two texts, the plain one (`2020-01-31 07:32:00`) and the one that names its parts.
-/

namespace Nesting

structure Date where
  year : Nat
  month : Nat
  day : Nat
  deriving DecidableEq, Repr

structure TimeOfDay where
  hour : Nat
  minute : Nat
  second : Nat
  micros : Nat
  deriving DecidableEq, Repr

/-- A number with leading zeros up to a width. -/
def padded (width n : Nat) : String :=
  let ds := digitsOf n
  String.ofList (List.replicate (width - ds.length) '0' ++ ds)

namespace Date

def isLeap (year : Nat) : Bool :=
  year % 4 == 0 && (year % 100 != 0 || year % 400 == 0)

def daysIn (year month : Nat) : Nat :=
  if month = 2 then if isLeap year then 29 else 28
  else if month = 4 ∨ month = 6 ∨ month = 9 ∨ month = 11 then 30
  else 31

/-- Years count from one, and a month has no more days than it has. -/
def isValid (d : Date) : Bool :=
  1 ≤ d.year && 1 ≤ d.month && d.month ≤ 12 && 1 ≤ d.day && d.day ≤ daysIn d.year d.month

def text (d : Date) : String :=
  padded 4 d.year ++ "-" ++ padded 2 d.month ++ "-" ++ padded 2 d.day

def parts (d : Date) : List Nat := [d.year, d.month, d.day]

end Date

namespace TimeOfDay

def text (t : TimeOfDay) : String :=
  padded 2 t.hour ++ ":" ++ padded 2 t.minute ++ ":" ++ padded 2 t.second ++
    if t.micros = 0 then "" else "." ++ padded 6 t.micros

/-- The parts that are told: seconds only when there are any, or microseconds. -/
def parts (t : TimeOfDay) : List Nat :=
  [t.hour, t.minute] ++
    if t.micros ≠ 0 then [t.second, t.micros] else if t.second ≠ 0 then [t.second] else []

end TimeOfDay

def commaSeparated (ns : List Nat) : String :=
  ", ".intercalate (ns.map fun n => String.ofList (digitsOf n))

/-- An offset in minutes as it follows a time: `+01:30`. -/
def offsetText (minutes : Int) : String :=
  (if minutes < 0 then "-" else "+") ++ padded 2 (minutes.natAbs / 60) ++ ":"
    ++ padded 2 (minutes.natAbs % 60)

/-- An offset in minutes by its parts. One west of universal time counts as a day less and the rest
of that day in seconds. -/
def offsetParts (minutes : Int) : String :=
  if minutes = 0 then "datetime.timezone.utc"
  else
    let seconds := String.ofList (digitsOf (minutes * 60 % 86400).toNat)
    "datetime.timezone(datetime.timedelta(" ++ (if minutes < 0 then "days=-1, " else "")
      ++ "seconds=" ++ seconds ++ "))"

end Nesting
