import Nesting.Binary64

/-!
# Shortest decimals

The fewest decimal digits that still read back as the same double, and among those the digits
nearest to the double itself. With `n` digits only the two neighbours of the double on the grid of
`n`-digit decimals can read back as it, so these are all that is tried, for `n` from 1 upwards.
Seventeen digits always do.
-/

namespace Nesting

/-- A positive decimal: `digits * 10 ^ exponent`. -/
structure Decimal where
  digits : Nat
  exponent : Int
  deriving DecidableEq, Repr

namespace Decimal

def quotient (d : Decimal) : Nat × Nat :=
  if 0 ≤ d.exponent then (d.digits * Nat.pow 10 d.exponent.toNat, 1)
  else (d.digits, Nat.pow 10 (-d.exponent).toNat)

/-- The same decimal without trailing zeros among its digits. The fuel is a bound on their
number. -/
def strip : (fuel : Nat) → Decimal → Decimal
  | 0, d => d
  | fuel + 1, d =>
    if d.digits ≠ 0 ∧ d.digits % 10 = 0 then strip fuel ⟨d.digits / 10, d.exponent + 1⟩ else d

/-- How many decimal digits a natural has. Zero has one. -/
def digitCount (n : Nat) : Nat :=
  (Nat.toDigits 10 n).length

end Decimal

/-- The numbers that read back as a double: between the two ends, the ends included when the
mantissa is even. Both ends are over the same denominator as the double's own value `num / den`. -/
structure Interval where
  low : Nat
  num : Nat
  high : Nat
  den : Nat
  closed : Bool

namespace Interval

/-- The interval of a positive finite double. Below a power of two the doubles lie twice as dense,
so there the lower end is half as far away. -/
def ofDouble (mantissa : Nat) (exponent : Int) : Interval :=
  let narrow := mantissa = Nat.pow 2 52 ∧ exponent ≠ Binary64.minExponent
  let low := if narrow then 4 * mantissa - 1 else 4 * mantissa - 2
  let (scale, den) :=
    if 0 ≤ exponent then (Nat.pow 2 exponent.toNat, 4) else (1, 4 * Nat.pow 2 (-exponent).toNat)
  ⟨low * scale, 4 * mantissa * scale, (4 * mantissa + 2) * scale, den, mantissa % 2 == 0⟩

/-- Whether a quotient reads back as the double. -/
def holds (i : Interval) (num den : Nat) : Bool :=
  if i.closed then i.low * den ≤ num * i.den && num * i.den ≤ i.high * den
  else i.low * den < num * i.den && num * i.den < i.high * den

/-- The least exponent of ten that the double's value stays below. `guess` is at most that. -/
def tenExponent (i : Interval) : (fuel : Nat) → (guess : Int) → Int
  | 0, k => k
  | fuel + 1, k =>
    let above :=
      if 0 ≤ k then i.num < i.den * Nat.pow 10 k.toNat else i.num * Nat.pow 10 (-k).toNat < i.den
    if above then k else i.tenExponent fuel (k + 1)

/-- The neighbours of the double on the grid `10 ^ exponent` that read back as it, the nearer one
first choice and the even one at a tie. -/
def onGrid? (i : Interval) (exponent : Int) : Option Decimal :=
  let (num, den) :=
    if 0 ≤ exponent then (i.num, i.den * Nat.pow 10 exponent.toNat)
    else (i.num * Nat.pow 10 (-exponent).toNat, i.den)
  let reads (digits : Nat) : Bool :=
    let q := Decimal.quotient ⟨digits, exponent⟩
    i.holds q.1 q.2
  let near := roundDiv .toEven num den
  let floor := num / den
  let far := if near = floor then floor + 1 else floor
  if reads near then some ⟨near, exponent⟩
  else if reads far then some ⟨far, exponent⟩
  else none

/-- Try grids of `top - left + 1` and more digits, `left` of them in all. -/
def shortestFrom (i : Interval) (ten : Int) : (left : Nat) → Decimal
  | 0 => (i.onGrid? (ten - 17)).getD ⟨0, 0⟩
  | left + 1 =>
    match i.onGrid? (ten - Int.ofNat (17 - left)) with
    | some d => d
    | none => i.shortestFrom ten left

end Interval

/-- The shortest decimal of a positive finite double. -/
def shortest (mantissa : Nat) (exponent : Int) : Decimal :=
  let i := Interval.ofDouble mantissa exponent
  -- 0.30103 is the base-ten logarithm of two, so the guess is low, and by three at most.
  let bits := Int.ofNat mantissa.log2 + exponent
  let guess := bits * 30103 / 100000 - 2
  (i.shortestFrom (i.tenExponent 8 guess) 17).strip 20

end Nesting
