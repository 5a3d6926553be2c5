import Mathlib.Tactic.FieldSimp
import Mathlib.Tactic.Linarith
import Nesting.Proofs.ExactMoments
import Nesting.Proofs.PairwiseSum

/-!
# Laws of the moments

In exact quotients the score is the variance plus the squared mean (`Moments.score_eq`), so it is
zero only where all depths are, as the variance is only where all are the same. Mean and median lie
between the least depth and the greatest. The median lies between the two depths in the middle of
the sorted ones (`Moments.exists_middle`), which are the same one if the number of depths is odd;
one half of the depths comes up to the first of them and one half from the second on.
-/

namespace Nesting

variable {depths : List Int}

/-! ## Places in the sorted depths -/

theorem getElem_sortDepths_le {i j : Nat} (hij : i ≤ j) (hj : j < (sortDepths depths).length) :
    (sortDepths depths)[i] ≤ (sortDepths depths)[j] := by
  rcases Nat.lt_or_eq_of_le hij with hlt | rfl
  · exact List.pairwise_iff_getElem.mp (pairwise_sortDepths depths) i j _ hj hlt
  · exact le_rfl

/-- The depths up to a place in the sorted ones are no deeper than the one there. -/
theorem lt_countP_le {k : Nat} (hk : k < (sortDepths depths).length) :
    k < depths.countP fun d => d ≤ (sortDepths depths)[k] := by
  have hall : ∀ d ∈ (sortDepths depths).take (k + 1), decide (d ≤ (sortDepths depths)[k]) := by
    intro d hd
    obtain ⟨i, hi, rfl⟩ := List.mem_take_iff_getElem.mp hd
    exact decide_eq_true (getElem_sortDepths_le (by omega) hk)
  have htake := List.countP_eq_length.mpr hall
  have hle := (List.take_sublist (k + 1) (sortDepths depths)).countP_le
    (p := fun d => d ≤ (sortDepths depths)[k])
  rw [htake, List.length_take, (perm_sortDepths depths).countP_eq] at hle
  omega

/-- The depths from a place in the sorted ones on are no less deep than the one there. -/
theorem length_sub_le_countP {k : Nat} (hk : k < (sortDepths depths).length) :
    depths.length - k ≤ depths.countP fun d => (sortDepths depths)[k] ≤ d := by
  have hall : ∀ d ∈ (sortDepths depths).drop k, decide ((sortDepths depths)[k] ≤ d) := by
    intro d hd
    obtain ⟨i, hi, rfl⟩ := List.mem_drop_iff_getElem.mp hd
    exact decide_eq_true (getElem_sortDepths_le (by omega) (by omega))
  have hdrop := List.countP_eq_length.mpr hall
  have hle := (List.drop_sublist k (sortDepths depths)).countP_le
    (p := fun d => (sortDepths depths)[k] ≤ d)
  rwa [hdrop, List.length_drop, length_sortDepths, (perm_sortDepths depths).countP_eq] at hle

/-- The greatest depth of some depths is one of them, and no other is greater. -/
theorem maxDepth_eq_max (h : depths ≠ []) : maxDepth depths = depths.max h := by
  have hpos : 0 < (sortDepths depths).length := by
    rw [length_sortDepths]
    exact List.length_pos_iff.mpr h
  have hlast : (sortDepths depths).length - 1 < (sortDepths depths).length := by omega
  rw [maxDepth, List.getLast?_eq_getElem?, List.getElem?_eq_getElem hlast, Option.getD_some]
  refine le_antisymm (List.le_max_of_mem (mem_sortDepths.mp (List.getElem_mem hlast))) ?_
  obtain ⟨i, hi, heq⟩ := List.mem_iff_getElem.mp (mem_sortDepths.mpr (List.max_mem h))
  rw [← heq]
  exact getElem_sortDepths_le (by omega) hlast

/-! ## Sums of squares -/

theorem sum_map_sq_nonneg (f : Int → ℚ) : 0 ≤ (depths.map fun d => f d ^ 2).sum := by
  apply List.sum_nonneg
  intro x hx
  obtain ⟨d, -, rfl⟩ := List.mem_map.mp hx
  exact sq_nonneg (f d)

/-- A sum of squares is zero just when everything that is squared is. -/
theorem sum_map_sq_eq_zero_iff (f : Int → ℚ) :
    (depths.map fun d => f d ^ 2).sum = 0 ↔ ∀ d ∈ depths, f d = 0 := by
  induction depths with
  | nil => simp
  | cons d rest ih =>
      rw [List.map_cons, List.sum_cons,
        add_eq_zero_iff_of_nonneg (sq_nonneg _) (sum_map_sq_nonneg f), ih, sq_eq_zero_iff,
        List.forall_mem_cons]

/-- The squares of distances to some place, expanded. -/
theorem sum_map_sub_sq (depths : List Int) (c : ℚ) :
    (depths.map fun d : Int => ((d : ℚ) - c) ^ 2).sum =
      sumSquares depths - 2 * c * (depths.map fun d : Int => (d : ℚ)).sum
        + depths.length * c ^ 2 := by
  induction depths with
  | nil => simp [sumSquares]
  | cons d rest ih =>
      simp only [sumSquares, List.map_cons, List.sum_cons, List.length_cons] at ih ⊢
      rw [ih]
      push_cast
      ring

namespace Moments

/-! ## Mean and variance -/

theorem cast_length_pos (h : depths ≠ []) : 0 < (depths.length : ℚ) := by
  exact_mod_cast List.length_pos_iff.mpr h

theorem mean_ofDepths (h : depths ≠ []) :
    (ofDepths depths : Moments ℚ).mean =
      (depths.map fun d : Int => (d : ℚ)).sum / depths.length := by
  have haverage := average_sortDepths id depths
  rw [List.map_id] at haverage
  rw [ofDepths, if_neg h]
  exact haverage

theorem variance_ofDepths (h : depths ≠ []) :
    (ofDepths depths : Moments ℚ).variance =
      (depths.map fun d : Int => ((d : ℚ) - (ofDepths depths).mean) ^ 2).sum
        / depths.length := by
  rw [ofDepths, if_neg h]
  simp only [sq]
  exact average_sortDepths _ depths

/-- The score is the variance plus the squared mean. -/
theorem score_eq (h : depths ≠ []) :
    (ofDepths depths : Moments ℚ).score =
      (ofDepths depths : Moments ℚ).variance + (ofDepths depths : Moments ℚ).mean ^ 2 := by
  have hlength := (cast_length_pos h).ne'
  rw [score_ofDepths, variance_ofDepths h, sum_map_sub_sq, mean_ofDepths h]
  field_simp
  ring

theorem variance_nonneg (h : depths ≠ []) : 0 ≤ (ofDepths depths : Moments ℚ).variance := by
  rw [variance_ofDepths h]
  exact div_nonneg (sum_map_sq_nonneg _) (Nat.cast_nonneg _)

theorem variance_le_score (h : depths ≠ []) :
    (ofDepths depths : Moments ℚ).variance ≤ (ofDepths depths : Moments ℚ).score := by
  rw [score_eq h]
  exact le_add_of_nonneg_right (sq_nonneg _)

/-- The mean is no less than a depth that no other is less than. -/
theorem le_mean (h : depths ≠ []) {low : Int} (hlow : ∀ d ∈ depths, low ≤ d) :
    (low : ℚ) ≤ (ofDepths depths : Moments ℚ).mean := by
  have hall : ∀ x ∈ depths.map fun d : Int => (d : ℚ), (low : ℚ) ≤ x := by
    intro x hx
    obtain ⟨d, hd, rfl⟩ := List.mem_map.mp hx
    exact_mod_cast hlow d hd
  have hsum := List.card_nsmul_le_sum _ _ hall
  rw [List.length_map, nsmul_eq_mul] at hsum
  rw [mean_ofDepths h, le_div_iff₀ (cast_length_pos h)]
  linarith

theorem mean_le (h : depths ≠ []) {high : Int} (hhigh : ∀ d ∈ depths, d ≤ high) :
    (ofDepths depths : Moments ℚ).mean ≤ high := by
  have hall : ∀ x ∈ depths.map fun d : Int => (d : ℚ), x ≤ (high : ℚ) := by
    intro x hx
    obtain ⟨d, hd, rfl⟩ := List.mem_map.mp hx
    exact_mod_cast hhigh d hd
  have hsum := List.sum_le_card_nsmul _ _ hall
  rw [List.length_map, nsmul_eq_mul] at hsum
  rw [mean_ofDepths h, div_le_iff₀ (cast_length_pos h)]
  linarith

theorem variance_eq_zero_iff (h : depths ≠ []) :
    (ofDepths depths : Moments ℚ).variance = 0 ↔ ∀ d ∈ depths, ∀ d' ∈ depths, d = d' := by
  rw [variance_ofDepths h, div_eq_zero_iff, or_iff_left (cast_length_pos h).ne',
    sum_map_sq_eq_zero_iff]
  constructor
  · intro hmean d hd d' hd'
    have heq := (sub_eq_zero.mp (hmean d hd)).trans (sub_eq_zero.mp (hmean d' hd')).symm
    exact_mod_cast heq
  · -- depths that are all the same are their own mean
    intro hsame d hd
    have hle := le_mean h fun d' hd' => (hsame d hd d' hd').le
    have hge := mean_le h fun d' hd' => (hsame d' hd' d hd).le
    exact sub_eq_zero.mpr (le_antisymm hle hge)

theorem score_eq_zero_iff (h : depths ≠ []) :
    (ofDepths depths : Moments ℚ).score = 0 ↔ ∀ d ∈ depths, d = 0 := by
  rw [score_ofDepths, div_eq_zero_iff, or_iff_left (cast_length_pos h).ne', sumSquares,
    sum_map_sq_eq_zero_iff]
  simp only [Int.cast_eq_zero]

/-! ## The median -/

/-- The middle of values in ascending order is the mean of two of them, which are the same one if
the number of the values is odd. -/
theorem middle_eq {xs : List ℚ} (h : 0 < xs.length) :
    middle xs = (xs[(xs.length - 1) / 2] + xs[xs.length / 2]) / 2 := by
  have hhalf : xs.length / 2 < xs.length := by omega
  rw [middle]
  split
  · next hodd =>
      have hsame : (xs.length - 1) / 2 = xs.length / 2 := by omega
      simp only [hsame, List.getElem?_eq_getElem hhalf, Option.getD_some]
      ring
  · next heven =>
      have hbefore : xs.length / 2 - 1 = (xs.length - 1) / 2 := by omega
      have hlt : (xs.length - 1) / 2 < xs.length := by omega
      rw [hbefore, List.getElem?_eq_getElem hlt, List.getElem?_eq_getElem hhalf, Option.getD_some,
        Option.getD_some]
      rfl

/-- The median lies between the two depths in the middle of the sorted ones. -/
theorem exists_middle (h : depths ≠ []) :
    ∃ (hlow : (depths.length - 1) / 2 < (sortDepths depths).length)
      (hhigh : depths.length / 2 < (sortDepths depths).length),
      ((sortDepths depths)[(depths.length - 1) / 2] : ℚ) ≤ (ofDepths depths : Moments ℚ).median
        ∧ (ofDepths depths : Moments ℚ).median ≤ (sortDepths depths)[depths.length / 2] := by
  have hpos := List.length_pos_iff.mpr h
  have hlength := length_sortDepths depths
  have hhigh : depths.length / 2 < (sortDepths depths).length := by omega
  have hmedian : (ofDepths depths : Moments ℚ).median =
      ((sortDepths depths)[(depths.length - 1) / 2] + (sortDepths depths)[depths.length / 2])
        / 2 := by
    have hxs : 0 < ((sortDepths depths).map (Arithmetic.ofInt : Int → ℚ)).length := by
      rw [List.length_map]
      omega
    rw [ofDepths, if_neg h, ofSorted, middle_eq hxs]
    simp only [List.length_map, length_sortDepths, List.getElem_map]
    rfl
  have hle : ((sortDepths depths)[(depths.length - 1) / 2] : ℚ) ≤
      (sortDepths depths)[depths.length / 2] := by
    exact_mod_cast getElem_sortDepths_le (by omega) hhigh
  refine ⟨by omega, hhigh, ?_, ?_⟩
  · rw [hmedian]
    linarith
  · rw [hmedian]
    linarith

theorem le_median (h : depths ≠ []) {low : Int} (hlow : ∀ d ∈ depths, low ≤ d) :
    (low : ℚ) ≤ (ofDepths depths : Moments ℚ).median := by
  obtain ⟨hplace, -, hle, -⟩ := exists_middle h
  have hbound := hlow _ (mem_sortDepths.mp (List.getElem_mem hplace))
  refine le_trans ?_ hle
  exact_mod_cast hbound

theorem median_le (h : depths ≠ []) {high : Int} (hhigh : ∀ d ∈ depths, d ≤ high) :
    (ofDepths depths : Moments ℚ).median ≤ high := by
  obtain ⟨-, hplace, -, hle⟩ := exists_middle h
  have hbound := hhigh _ (mem_sortDepths.mp (List.getElem_mem hplace))
  refine hle.trans ?_
  exact_mod_cast hbound

/-- At least half of the depths come up to the median. -/
theorem length_le_countP_le_median (h : depths ≠ []) :
    depths.length ≤ 2 * depths.countP fun d : Int =>
      (d : ℚ) ≤ (ofDepths depths : Moments ℚ).median := by
  obtain ⟨hplace, -, hle, -⟩ := exists_middle h
  have hupTo : ∀ d ∈ depths, decide (d ≤ (sortDepths depths)[(depths.length - 1) / 2]) = true →
      decide ((d : ℚ) ≤ (ofDepths depths : Moments ℚ).median) = true := by
    intro d _ hd
    have hcast : (d : ℚ) ≤ (sortDepths depths)[(depths.length - 1) / 2] := by
      exact_mod_cast of_decide_eq_true hd
    exact decide_eq_true (hcast.trans hle)
  have hmono := List.countP_mono_left hupTo
  have hcount := lt_countP_le hplace
  omega

/-- At least half of the depths are no less than the median. -/
theorem length_le_countP_median_le (h : depths ≠ []) :
    depths.length ≤ 2 * depths.countP fun d : Int =>
      (ofDepths depths : Moments ℚ).median ≤ d := by
  obtain ⟨-, hplace, -, hle⟩ := exists_middle h
  have hfrom : ∀ d ∈ depths, decide ((sortDepths depths)[depths.length / 2] ≤ d) = true →
      decide ((ofDepths depths : Moments ℚ).median ≤ (d : ℚ)) = true := by
    intro d _ hd
    have hcast : ((sortDepths depths)[depths.length / 2] : ℚ) ≤ d := by
      exact_mod_cast of_decide_eq_true hd
    exact decide_eq_true (hle.trans hcast)
  have hmono := List.countP_mono_left hfrom
  have hcount := length_sub_le_countP hplace
  omega

/-! ## All laws -/

/-- The laws of the moments of some depths. -/
structure Laws (m : Moments ℚ) (h : depths ≠ []) : Prop where
  score_eq : m.score = m.variance + m.mean ^ 2
  variance_nonneg : 0 ≤ m.variance
  variance_le_score : m.variance ≤ m.score
  min_le_mean : (depths.min h : ℚ) ≤ m.mean
  mean_le_max : m.mean ≤ depths.max h
  min_le_median : (depths.min h : ℚ) ≤ m.median
  median_le_max : m.median ≤ depths.max h
  half_le_median : depths.length ≤ 2 * depths.countP fun d : Int => (d : ℚ) ≤ m.median
  half_ge_median : depths.length ≤ 2 * depths.countP fun d : Int => m.median ≤ d
  variance_eq_zero_iff : m.variance = 0 ↔ ∀ d ∈ depths, ∀ d' ∈ depths, d = d'
  score_eq_zero_iff : m.score = 0 ↔ ∀ d ∈ depths, d = 0

/-- In exact quotients the run of a pairwise sum ends for every list, with the plain sum, and the
moments that are computed with it obey their laws. The greatest depth that is measured is the
maximum that the laws are about. -/
theorem ofDepths_laws (h : depths ≠ []) :
    (∀ (xs : List ℚ) (x : ℚ), SumsTo xs x ↔ x = xs.sum)
      ∧ (∀ xs : List ℚ, pairwiseSum xs = xs.sum)
      ∧ maxDepth depths = depths.max h
      ∧ (ofDepths depths : Moments ℚ).Laws h := by
  have hmin : ∀ d ∈ depths, depths.min h ≤ d := fun _ hd => List.min_le_of_mem hd
  have hmax : ∀ d ∈ depths, d ≤ depths.max h := fun _ hd => List.le_max_of_mem hd
  refine ⟨?_, pairwiseSum_eq_sum, maxDepth_eq_max h, ?_⟩
  · intro xs x
    rw [← pairwiseSum_eq_sum]
    exact sumsTo_iff
  · exact {
      score_eq := score_eq h
      variance_nonneg := variance_nonneg h
      variance_le_score := variance_le_score h
      min_le_mean := le_mean h hmin
      mean_le_max := mean_le h hmax
      min_le_median := le_median h hmin
      median_le_max := median_le h hmax
      half_le_median := length_le_countP_le_median h
      half_ge_median := length_le_countP_median_le h
      variance_eq_zero_iff := variance_eq_zero_iff h
      score_eq_zero_iff := score_eq_zero_iff h }

/-- Four depths, of which one is less than flat and two are the same. -/
theorem ofDepths_laws_four :
    let m : Moments ℚ := ofDepths [3, -1, 0, 0]
    ([3, -1, 0, 0] : List Int) ≠ []
      ∧ m.score = m.variance + m.mean ^ 2 ∧ 0 ≤ m.variance ∧ m.variance ≠ 0 := by
  intro m
  have hne : ([3, -1, 0, 0] : List Int) ≠ [] := List.cons_ne_nil _ _
  obtain ⟨-, -, -, hlaws⟩ := ofDepths_laws hne
  refine ⟨hne, hlaws.score_eq, hlaws.variance_nonneg, ?_⟩
  rw [ne_eq, hlaws.variance_eq_zero_iff]
  decide

end Moments

end Nesting
