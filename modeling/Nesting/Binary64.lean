import Nesting.Decimal.Rounding

/-!
# Doubles as exact numbers

A double is read exactly, as a sign, a whole number and a power of two, and an exact quotient is
written as the double nearest to it, a tie going to the even neighbour. All comparing, rounding and
printing of doubles in this library goes through these two, so that it is exact.
-/

namespace Nesting

/-- What a double stands for. A finite double is `mantissa * 2 ^ exponent`, with its sign apart so
that zero keeps it. -/
inductive Binary64 where
  | nan
  | infinite (negative : Bool)
  | finite (negative : Bool) (mantissa : Nat) (exponent : Int)
  deriving DecidableEq, Repr

namespace Binary64

/-- The smallest power of two that divides a finite double. -/
def minExponent : Int := -1074

/-- Read the 64 bits of a double: a sign bit, eleven bits of exponent, 52 bits of fraction. -/
def ofBits (bits : Nat) : Binary64 :=
  let fraction := bits % Nat.pow 2 52
  let biased := bits / Nat.pow 2 52 % Nat.pow 2 11
  let negative := bits / Nat.pow 2 63 % 2 == 1
  if biased = 2047 then
    if fraction = 0 then infinite negative else nan
  else if biased = 0 then finite negative fraction minExponent
  else finite negative (Nat.pow 2 52 + fraction) (Int.ofNat biased - 1075)

def ofFloat (x : Float) : Binary64 :=
  ofBits x.toBits.toNat

/-- The whole part of the base-two logarithm of a positive quotient. -/
def log2Quotient (num den : Nat) : Int :=
  let e : Int := Int.ofNat num.log2 - Int.ofNat den.log2
  let reached := if 0 ≤ e then den * Nat.pow 2 e.toNat ≤ num else den ≤ num * Nat.pow 2 (-e).toNat
  if reached then e else e - 1

/-- The bits, without the sign, of the double nearest to a quotient. A quotient past the largest
finite double gives the bits of infinity. -/
def nearestBits (num den : Nat) : Nat :=
  if num = 0 then 0
  else
    let q := max (log2Quotient num den - 52) minExponent
    let m :=
      if 0 ≤ q then roundDiv .toEven num (den * Nat.pow 2 q.toNat)
      else roundDiv .toEven (num * Nat.pow 2 (-q).toNat) den
    -- A mantissa without its leading bit only occurs at the smallest exponent; one that was
    -- rounded up to the next power of two carries into the exponent.
    min ((q - minExponent).toNat * Nat.pow 2 52 + m) (2047 * Nat.pow 2 52)

def nearest (negative : Bool) (num den : Nat) : Float :=
  Float.ofBits (UInt64.ofNat (nearestBits num den + if negative then Nat.pow 2 63 else 0))

def nearestInt (n : Int) : Float :=
  nearest (n < 0) n.natAbs 1

/-- Whether a whole number is too large for a finite double. -/
def tooLarge (n : Int) : Bool :=
  nearestBits n.natAbs 1 == 2047 * Nat.pow 2 52

def quotient (mantissa : Nat) (exponent : Int) : Nat × Nat :=
  if 0 ≤ exponent then (mantissa * Nat.pow 2 exponent.toNat, 1)
  else (mantissa, Nat.pow 2 (-exponent).toNat)

end Binary64

def infinity : Float := Float.ofBits 0x7ff0000000000000

/-- A double that is no number. -/
def notANumber : Float := Float.ofBits 0x7ff8000000000000

end Nesting
