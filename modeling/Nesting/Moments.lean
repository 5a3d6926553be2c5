import Nesting.PairwiseSum

/-!
# Moments of depths

The statistics of the depths of a listing. The headline is the *score*, the mean of the squared
depths: it is the variance plus the squared mean, so that a single deep line raises it even in a
text that is flat otherwise. All sums run over the sorted depths, so the order of the lines has no
part in them.
-/

namespace Nesting

def sortDepths (depths : List Int) : List Int :=
  depths.mergeSort fun a b => decide (a ≤ b)

/-- How many lines there are of each depth that occurs, in ascending order of depth. -/
def depthCounts (depths : List Int) : List (Int × Nat) :=
  (sortDepths depths).eraseReps.map fun d => (d, depths.count d)

structure Moments (α : Type) where
  score : α
  mean : α
  variance : α
  median : α
  deriving DecidableEq, Repr

namespace Moments

variable {α : Type} [Arithmetic α]

def average (xs : List α) : α :=
  pairwiseSum xs / Arithmetic.ofInt xs.length

def squared (x : α) : α := x * x

/-- The value in the middle, or the mean of the two in the middle. -/
def middle (xs : List α) : α :=
  let zero : α := Arithmetic.ofInt 0
  let half := xs.length / 2
  if xs.length % 2 = 1 then xs[half]?.getD zero
  else (xs[half - 1]?.getD zero + xs[half]?.getD zero) / Arithmetic.ofInt 2

/-- The moments of values in ascending order. -/
def ofSorted (xs : List α) : Moments α :=
  let mean := average xs
  { score := average (xs.map squared)
    mean := mean
    variance := average (xs.map fun x => squared (x - mean))
    median := middle xs }

def zero : Moments α :=
  let z : α := Arithmetic.ofInt 0
  ⟨z, z, z, z⟩

/-- The moments of depths. Without any depth they are zero. -/
def ofDepths (depths : List Int) : Moments α :=
  if depths = [] then zero else ofSorted ((sortDepths depths).map Arithmetic.ofInt)

end Moments

/-- A depth has to fit into 64 bits with a sign. -/
def isStorable (d : Int) : Bool :=
  -Nat.pow 2 63 ≤ d && d < Nat.pow 2 63

/-- The sum of depths, in 64 bits with a sign: it wraps around at the ends. -/
def depthSum (depths : List Int) : Int :=
  (depths.foldr (· + ·) 0).bmod (Nat.pow 2 64)

/-- The greatest depth, zero if there is none. -/
def maxDepth (depths : List Int) : Int :=
  (sortDepths depths).getLast?.getD 0

/-- All that is measured of the depths of a listing. -/
structure Measures where
  moments : Moments Float
  lineCount : Nat
  sum : Int
  max : Int
  counts : List (Int × Nat)

namespace Measures

def score (m : Measures) : Float := m.moments.score

def deviation (m : Measures) : Float := m.moments.variance.sqrt

/-- The measures of depths that can be stored. -/
def ofDepths (depths : List Int) : Measures where
  moments := Moments.ofDepths depths
  lineCount := depths.length
  sum := depthSum depths
  max := maxDepth depths
  counts := depthCounts depths

end Measures

end Nesting
