import Nesting.Arithmetic

/-!
# Pairwise sums

In doubles the order of the additions decides the last digits of a sum. The order here keeps the
error small on long lists: up to seven values are added one by one; up to `blockLimit` values are
added in eight lanes, the sums of the lanes are added in pairs, and the values left over one by one;
a longer list is cut in the middle, at a multiple of eight.
-/

namespace Nesting

variable {α : Type} [Arithmetic α]

/-- The most values that are added in lanes. -/
def blockLimit : Nat := 128

/-- Add values from the left. -/
def addAll (start : α) (xs : List α) : α :=
  xs.foldl (· + ·) start

/-- Add each eight values to eight lanes, then the lanes in pairs, then what is left over. -/
def addLanes (r0 r1 r2 r3 r4 r5 r6 r7 : α) : List α → α
  | x0 :: x1 :: x2 :: x3 :: x4 :: x5 :: x6 :: x7 :: rest =>
    addLanes (r0 + x0) (r1 + x1) (r2 + x2) (r3 + x3) (r4 + x4) (r5 + x5) (r6 + x6) (r7 + x7) rest
  | rest => addAll (((r0 + r1) + (r2 + r3)) + ((r4 + r5) + (r6 + r7))) rest

/-- The sum of at most `blockLimit` values. -/
def blockSum : List α → α
  | x0 :: x1 :: x2 :: x3 :: x4 :: x5 :: x6 :: x7 :: rest =>
    addLanes x0 x1 x2 x3 x4 x5 x6 x7 rest
  | xs => addAll (Arithmetic.ofInt 0) xs

/-- Where a list of `n` values is cut: at half of it, rounded down to a multiple of eight. -/
def cutAt (n : Nat) : Nat :=
  n / 2 - n / 2 % 8

theorem cutAt_pos {n : Nat} (h : blockLimit < n) : 0 < cutAt n := by
  simp only [cutAt, blockLimit] at *
  omega

theorem cutAt_lt {n : Nat} (h : blockLimit < n) : cutAt n < n := by
  simp only [cutAt, blockLimit] at *
  omega

def pairwiseSum (xs : List α) : α :=
  if blockLimit < xs.length then
    pairwiseSum (xs.take (cutAt xs.length)) + pairwiseSum (xs.drop (cutAt xs.length))
  else blockSum xs
termination_by xs.length
decreasing_by
  all_goals
    next h =>
      have := cutAt_pos h
      have := cutAt_lt h
      simp only [List.length_take, List.length_drop]
      omega

end Nesting
