import Mathlib.Algebra.BigOperators.Group.List.Basic
import Mathlib.Algebra.Order.BigOperators.Group.List
import Mathlib.Algebra.Order.Field.Rat
import Mathlib.Tactic.Ring
import Nesting.Proofs.Reordering

/-!
# Moments in exact quotients

Over the rationals the order of the additions does not matter: the sum in lanes and halves is the
plain sum (`pairwiseSum_eq_sum`), the same for every order of the depths. So the formulas for the
moments can be read off without the sorting and the grouping (`average_sortDepths`,
`score_ofDepths`).
-/

namespace Nesting

/-! ## Sums -/

theorem addAll_eq (start : ℚ) (xs : List ℚ) : addAll start xs = start + xs.sum := by
  unfold addAll
  induction xs generalizing start with
  | nil => simp
  | cons x xs ih => rw [List.foldl_cons, ih, List.sum_cons, add_assoc]

theorem addLanes_eq (r0 r1 r2 r3 r4 r5 r6 r7 : ℚ) (xs : List ℚ) :
    addLanes r0 r1 r2 r3 r4 r5 r6 r7 xs = r0 + r1 + r2 + r3 + r4 + r5 + r6 + r7 + xs.sum := by
  induction r0, r1, r2, r3, r4, r5, r6, r7, xs using addLanes.induct with
  | case1 r0 r1 r2 r3 r4 r5 r6 r7 x0 x1 x2 x3 x4 x5 x6 x7 rest ih =>
      rw [addLanes, ih]
      simp only [List.sum_cons]
      ring
  | case2 r0 r1 r2 r3 r4 r5 r6 r7 rest hshort =>
      rw [addLanes, addAll_eq]
      · ring
      · exact hshort

theorem blockSum_eq (xs : List ℚ) : blockSum xs = xs.sum := by
  unfold blockSum
  split
  · rw [addLanes_eq]
    simp only [List.sum_cons]
    ring
  · rw [addAll_eq]
    exact (zero_add _)

theorem pairwiseSum_eq_sum (xs : List ℚ) : pairwiseSum xs = xs.sum := by
  induction xs using pairwiseSum.induct with
  | case1 xs hlong ihtake ihdrop =>
      rw [pairwiseSum, if_pos hlong, ihtake, ihdrop, List.sum_take_add_sum_drop]
  | case2 xs hshort => rw [pairwiseSum, if_neg hshort, blockSum_eq]

/-! ## The score -/

def sumSquares (depths : List Int) : ℚ :=
  (depths.map fun d : Int => (d : ℚ) ^ 2).sum

theorem sumSquares_eq_of_perm {depths depths' : List Int} (h : depths.Perm depths') :
    sumSquares depths = sumSquares depths' :=
  (h.map _).sum_eq

namespace Moments

theorem average_eq (xs : List ℚ) : average xs = xs.sum / xs.length := by
  rw [average, pairwiseSum_eq_sum]
  rfl

/-- An average over depths, whatever it is an average of, does not depend on their order. -/
theorem average_sortDepths (f : ℚ → ℚ) (depths : List Int) :
    average (((sortDepths depths).map Arithmetic.ofInt).map f) =
      (depths.map fun d : Int => f d).sum / depths.length := by
  have hperm : (((sortDepths depths).map Arithmetic.ofInt).map f).Perm
      (depths.map fun d : Int => f d) := by
    rw [List.map_map]
    exact (perm_sortDepths depths).map _
  rw [average_eq, hperm.sum_eq, hperm.length_eq, List.length_map]

/-- The score is the sum of the squared depths by their number. -/
theorem score_ofDepths (depths : List Int) :
    (ofDepths depths : Moments ℚ).score = sumSquares depths / depths.length := by
  by_cases hnil : depths = []
  · subst hnil
    simp [ofDepths, zero, Arithmetic.ofInt, sumSquares]
  · rw [ofDepths, if_neg hnil, sumSquares]
    simp only [sq]
    exact average_sortDepths squared depths

end Moments

end Nesting
