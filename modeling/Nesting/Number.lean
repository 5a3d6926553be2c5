import Nesting.Value

/-!
# Numbers and how they compare

A number that is given as an option is a whole number of any size or a double, and the two compare
by what they stand for: a whole number is not rounded to a double first. `Extended` is what numbers
stand for, the exact quotients with the two infinities, and with a value for no number that
compares with nothing.
-/

namespace Nesting

inductive Extended where
  | nan
  | negInf
  | finite (q : Rat)
  | posInf
  deriving DecidableEq

namespace Extended

/-- Whether a value is at most another. Nothing is at most no number, nor the other way round. -/
def le : Extended → Extended → Bool
  | nan, _ | _, nan => false
  | negInf, _ | _, posInf => true
  | finite a, finite b => a ≤ b
  | finite _, negInf | posInf, finite _ | posInf, negInf => false

/-- What a double stands for. -/
def ofBinary64 : Binary64 → Extended
  | .nan => nan
  | .infinite negative => if negative then negInf else posInf
  | .finite negative m e =>
    let (num, den) := Binary64.quotient m e
    let q : Rat := mkRat num den
    finite (if negative then -q else q)

end Extended

/-- A number as it is given. -/
inductive Number where
  | int (n : Int)
  | float (x : Float)

namespace Number

def value : Number → Extended
  | int n => .finite n
  | float x => .ofBinary64 (.ofFloat x)

/-- Whether a number is at least a threshold. -/
def reaches (score threshold : Number) : Bool :=
  threshold.value.le score.value

/-- The sign of a finite number, and its magnitude as a quotient of naturals. Zero keeps its
sign. -/
def magnitude? : Number → Option (Bool × Nat × Nat)
  | int n => some (n < 0, n.natAbs, 1)
  | float x =>
    match Binary64.ofFloat x with
    | .finite negative m e => some (negative, Binary64.quotient m e)
    | _ => none

end Number

/-- The number that a value counts as, if any: truth values count as one and zero. -/
def Value.number? : Value → Option Number
  | .int n => some (.int n)
  | .float x => some (.float x)
  | .bool b => some (.int (if b then 1 else 0))
  | _ => none

end Nesting
