import Nesting.Decimal.Shortest

/-!
# Writing numbers

The three layouts in which numbers are shown: `plainText` (the fewest digits that read back,
positional for magnitudes from `1e-4` up to `1e16` and with an exponent beyond), `fixedText` (a
fixed number of places), and `generalText` (a fixed number of significant digits without trailing
zeros). Each is a choice of digits followed by a placing of the point.
-/

namespace Nesting

def digitsOf (n : Nat) : List Char :=
  Nat.toDigits 10 n

def intText (n : Int) : String :=
  String.ofList ((if n < 0 then ['-'] else []) ++ digitsOf n.natAbs)

/-- How a decimal is laid out. -/
structure NumberLayout where
  /-- The least exponent of the first digit that is written positionally. -/
  positionalFrom : Int
  /-- The first exponent beyond those written positionally. -/
  positionalTo : Int
  /-- Whether a whole number is written with `.0` after it. -/
  keepsPoint : Bool
  deriving DecidableEq, Repr

/-- The layout of a double on its own: positional up to sixteen digits before the point and three
zeros after it, and always told apart from a whole number. -/
def plainLayout : NumberLayout := ⟨-4, 16, true⟩

/-- The layout with six significant digits. -/
def generalLayout : NumberLayout := ⟨-4, 6, false⟩

/-- The exponent of a number: its sign, and two digits at least. -/
def exponentText (e : Int) : List Char :=
  let ds := digitsOf e.natAbs
  ['e', if e < 0 then '-' else '+'] ++ (if ds.length < 2 then '0' :: ds else ds)

/-- Lay out a decimal whose digits do not end in zero. -/
def NumberLayout.write (layout : NumberLayout) (d : Decimal) : List Char :=
  let ds := digitsOf d.digits
  -- The exponent of the first digit.
  let e := d.exponent + Int.ofNat ds.length - 1
  if layout.positionalFrom ≤ e ∧ e < layout.positionalTo then
    if e < 0 then
      '0' :: '.' :: (List.replicate (-e - 1).toNat '0' ++ ds)
    else
      let before := e.toNat + 1
      if ds.length ≤ before then
        ds ++ List.replicate (before - ds.length) '0' ++
          (if layout.keepsPoint then ['.', '0'] else [])
      else
        ds.take before ++ '.' :: ds.drop before
  else
    (if ds.length ≤ 1 then ds else ds.take 1 ++ '.' :: ds.drop 1) ++ exponentText e

def signText (negative : Bool) : List Char :=
  if negative then ['-'] else []

/-- A double in the fewest digits that read back. -/
def plainText (x : Float) : String :=
  match Binary64.ofFloat x with
  | .nan => "nan"
  | .infinite negative => String.ofList (signText negative ++ ['i', 'n', 'f'])
  | .finite negative m e =>
    let body := if m = 0 then ['0', '.', '0'] else plainLayout.write (shortest m e)
    String.ofList (signText negative ++ body)

/-- A quotient with a fixed number of places, rounded as `tie` says. -/
def fixedDigits (tie : Tie) (places : Nat) (num den : Nat) : List Char :=
  let n := roundDiv tie (num * Nat.pow 10 places) den
  let fraction := digitsOf (n % Nat.pow 10 places)
  digitsOf (n / Nat.pow 10 places) ++
    if places = 0 then [] else '.' :: (List.replicate (places - fraction.length) '0' ++ fraction)

/-- A double with a fixed number of places, a tie going to the even digit. -/
def fixedText (places : Nat) (x : Float) : String :=
  match Binary64.ofFloat x with
  | .nan => "nan"
  | .infinite negative => String.ofList (signText negative ++ ['i', 'n', 'f'])
  | .finite negative m e =>
    let q := Binary64.quotient m e
    String.ofList (signText negative ++ fixedDigits .toEven places q.1 q.2)

/-- The decimal of `significant` digits nearest to a positive double, without trailing zeros. -/
def significantDigits (significant : Nat) (m : Nat) (e : Int) : Decimal :=
  let i := Interval.ofDouble m e
  let ten := i.tenExponent 8 ((Int.ofNat m.log2 + e) * 30103 / 100000 - 2)
  let exponent := ten - Int.ofNat significant
  let digits :=
    if 0 ≤ exponent then roundDiv .toEven i.num (i.den * Nat.pow 10 exponent.toNat)
    else roundDiv .toEven (i.num * Nat.pow 10 (-exponent).toNat) i.den
  (⟨digits, exponent⟩ : Decimal).strip (significant + 1)

/-- A double with six significant digits, trailing zeros left out. -/
def generalText (x : Float) : String :=
  match Binary64.ofFloat x with
  | .nan => "nan"
  | .infinite negative => String.ofList (signText negative ++ ['i', 'n', 'f'])
  | .finite negative m e =>
    let body := if m = 0 then ['0'] else generalLayout.write (significantDigits 6 m e)
    String.ofList (signText negative ++ body)

end Nesting
