import Nesting.Binary64
import Nesting.Text.Blank
import Nesting.Text.Letters

/-!
# Reading numbers

A decimal numeral is a sign, digits with at most one point, and an exponent; the words for infinity
and for no number are read in any case. `numeral?` reads that grammar over plain digits;
`readFloat?` reads what a person may have typed, with blanks around it, digits of any script, and
underscores between digits.
-/

namespace Nesting

/-- A numeral: its sign, its digits without the point, and the power of ten they are scaled by. -/
structure Numeral where
  negative : Bool
  digits : Nat
  digitCount : Nat
  exponent : Int
  deriving DecidableEq, Repr

/-- The value of digits, read from the left. -/
def digitsValue (ds : List Char) : Nat :=
  ds.foldl (fun n c => 10 * n + (c.toNat - '0'.toNat)) 0

namespace Numeral

/-- The double nearest to a numeral. A numeral so large, or so small, that its exponent alone
decides is not multiplied out. -/
def toFloat (n : Numeral) : Float :=
  if n.digits = 0 then Binary64.nearest n.negative 0 1
  else if 400 < n.exponent + n.digitCount then Binary64.nearest n.negative (Nat.pow 2 1024) 1
  else if n.exponent + n.digitCount < -400 then Binary64.nearest n.negative 0 1
  else if 0 ≤ n.exponent then
    Binary64.nearest n.negative (n.digits * Nat.pow 10 n.exponent.toNat) 1
  else Binary64.nearest n.negative n.digits (Nat.pow 10 (-n.exponent).toNat)

end Numeral

def takeSign : List Char → Bool × List Char
  | '-' :: rest => (true, rest)
  | '+' :: rest => (false, rest)
  | cs => (false, cs)

def exponent? : List Char → Option Int
  | [] => some 0
  | c :: rest =>
    if c = 'e' ∨ c = 'E' then
      let (negative, ds) := takeSign rest
      if ds ≠ [] ∧ ds.all Char.isDigit then
        let n := Int.ofNat (digitsValue ds)
        some (if negative then -n else n)
      else none
    else none

/-- An unsigned numeral: digits, a point and digits, an exponent, with one digit at least. -/
def numeral? (negative : Bool) (cs : List Char) : Option Numeral :=
  let whole := cs.takeWhile Char.isDigit
  let rest := cs.dropWhile Char.isDigit
  let (fraction, rest) :=
    match rest with
    | '.' :: rest => (rest.takeWhile Char.isDigit, rest.dropWhile Char.isDigit)
    | _ => ([], rest)
  if whole = [] ∧ fraction = [] then none
  else
    (exponent? rest).map fun e =>
      let ds := whole ++ fraction
      ⟨negative, digitsValue ds, ds.length, e - Int.ofNat fraction.length⟩

/-- A signed numeral, or a word for infinity or no number. -/
def plainFloat? (cs : List Char) : Option Float :=
  let (negative, rest) := takeSign cs
  match String.ofList (rest.map Char.toLower) with
  | "inf" | "infinity" => some (if negative then -infinity else infinity)
  | "nan" => some notANumber
  | _ => (numeral? negative rest).map Numeral.toFloat

/-- Take the underscores out of a numeral. Each of them has to stand between two digits. -/
def dropUnderscores? (cs : List Char) : Option (List Char) :=
  let rec go (afterDigit : Bool) : List Char → Option (List Char)
    | [] => some []
    | ['_'] => none
    | '_' :: d :: rest =>
      if afterDigit ∧ d.isDigit then (go true rest).map (d :: ·) else none
    | c :: rest => (go c.isDigit rest).map (c :: ·)
  go false cs

/-- The blanks of plain text, which is all a numeral without other characters is rid of. -/
def isPlainBlank (c : Char) : Bool :=
  c == ' ' || (0x09 ≤ c.toNat && c.toNat ≤ 0x0d)

/-- The plain character for a digit or a blank of any script. -/
def plainChar (c : Char) : Char :=
  if c.toNat < 127 then c
  else if isBlank c then ' '
  else match digitValue? c with
    | some d => Char.ofNat ('0'.toNat + d)
    | none => '?'

/-- What a person typed in plain characters, without the blanks around it and the underscores
within it. -/
def typedNumeral? (cs : List Char) : Option (List Char) :=
  let plain := if cs.all fun c => c.toNat < 128 then cs else cs.map plainChar
  dropUnderscores? ((plain.dropWhile isPlainBlank).reverse.dropWhile isPlainBlank |>.reverse)

/-- Read a double as a person writes it. -/
def readFloat? (s : String) : Option Float :=
  (typedNumeral? s.toList).bind plainFloat?

/-- Read a whole number as a person writes it. -/
def readInt? (cs : List Char) : Option Int :=
  (typedNumeral? cs).bind fun cs =>
    let (negative, ds) := takeSign cs
    if ds ≠ [] ∧ ds.all Char.isDigit then
      let n := Int.ofNat (digitsValue ds)
      some (if negative then -n else n)
    else none

end Nesting
