import Mathlib.Algebra.Order.Round
import Mathlib.Tactic.Linarith
import Nesting.Proofs.Binary64.Values

/-!
# The nearest tenth

`IsNearestTenth q v` says that `v` is the multiple of a tenth nearest to `q`, and of two that are
equally near the one further from zero. It is at most a twentieth away
(`IsNearestTenth.abs_sub_le`), and rounding this way keeps the order (`IsNearestTenth.mono`); for both it does not matter how it is
computed. `roundDiv` computes it for quotients that are not negative (`isNearestTenth_roundDiv`),
and the negatives follow by reflection.
-/

namespace Nesting

/-- Whether a number is the multiple of a tenth nearest to another, of two that are equally near the
one further from zero. -/
structure IsNearestTenth (q v : ℚ) : Prop where
  isTenth : ∃ k : ℤ, v = k / 10
  nearest : ∀ k : ℤ, |q - v| ≤ |q - k / 10|
  away : ∀ k : ℤ, |q - k / 10| = |q - v| → |(k / 10 : ℚ)| ≤ |v|

theorem abs_ten_mul_sub (q : ℚ) (k : ℤ) : |10 * q - k| = 10 * |q - k / 10| := by
  have hscale : 10 * q - k = 10 * (q - k / 10) := by ring
  rw [hscale, abs_mul, abs_of_pos (by norm_num)]

namespace IsNearestTenth

variable {q r v w : ℚ}

theorem abs_sub_le (h : IsNearestTenth q v) : |q - v| ≤ 1 / 20 := by
  have hround := abs_sub_round (10 * q)
  have hnearest := h.nearest (round (10 * q))
  rw [abs_ten_mul_sub] at hround
  linarith

/-- Of numbers in order the nearest tenths are in order. -/
theorem mono (hv : IsNearestTenth q v) (hw : IsNearestTenth r w) (h : q ≤ r) : v ≤ w := by
  by_contra hlt
  rw [not_le] at hlt
  obtain ⟨k, rfl⟩ := hv.isTenth
  obtain ⟨l, rfl⟩ := hw.isTenth
  -- both numbers would be half way between the two tenths, and these equally far from zero
  have hq : (k + l) / 20 ≤ q := by
    have hsq := sq_le_sq.mpr (hv.nearest l)
    nlinarith
  have hr : r ≤ (k + l) / 20 := by
    have hsq := sq_le_sq.mpr (hw.nearest k)
    nlinarith
  obtain rfl : q = r := by linarith
  have hmiddle : q = (k + l) / 20 := by linarith
  have htie : |q - k / 10| = |q - l / 10| := le_antisymm (hv.nearest l) (hw.nearest k)
  have habs : |(k / 10 : ℚ)| = |(l / 10 : ℚ)| :=
    le_antisymm (hw.away k htie) (hv.away l htie.symm)
  have hneg : (k / 10 : ℚ) = -(l / 10) := (abs_eq_abs.mp habs).resolve_left hlt.ne'
  -- so they would be halves of zero, which is a tenth itself
  have hzero : q = 0 := by linarith
  have hnearest := hv.nearest 0
  rw [hzero, Int.cast_zero, zero_div, sub_self, abs_zero, zero_sub, abs_neg] at hnearest
  have hk : (k / 10 : ℚ) = 0 := abs_eq_zero.mp (le_antisymm hnearest (abs_nonneg _))
  linarith

/-- A whole number is a tenth. -/
theorem intCast (n : ℤ) : IsNearestTenth n n where
  isTenth := ⟨10 * n, by push_cast; ring⟩
  nearest k := by
    rw [sub_self, abs_zero]
    exact abs_nonneg _
  away k h := by
    rw [sub_self, abs_zero, abs_eq_zero, sub_eq_zero] at h
    rw [h]

theorem neg (h : IsNearestTenth q v) : IsNearestTenth (-q) (-v) := by
  have hflip : ∀ k : ℤ, |-q - k / 10| = |q - (-k : ℤ) / 10| := by
    intro k
    rw [← abs_neg]
    push_cast
    ring_nf
  have hflip' : |-q - -v| = |q - v| := by rw [← abs_neg, neg_sub_neg, neg_sub, abs_sub_comm]
  refine ⟨?_, fun k => ?_, fun k hk => ?_⟩
  · obtain ⟨k, rfl⟩ := h.isTenth
    exact ⟨-k, by push_cast; ring⟩
  · rw [hflip, hflip']
    exact h.nearest (-k)
  · rw [hflip, hflip'] at hk
    have hle := h.away (-k) hk
    rwa [Int.cast_neg, neg_div, abs_neg, ← abs_neg v] at hle

theorem signed (negative : Bool) (h : IsNearestTenth q v) :
    IsNearestTenth (Binary64.signed negative q) (Binary64.signed negative v) := by
  cases negative with
  | true => exact h.neg
  | false => exact h

end IsNearestTenth

/-! ## Rounding to a tenth -/

theorem roundDiv_eq_round (num : Nat) {den : Nat} (hden : 0 < den) :
    round (num / den : ℚ) = (roundDiv .awayFromZero num den : ℤ) := by
  have hpos : (0 : ℚ) < den := by exact_mod_cast hden
  have hle : (2 * (roundDiv .awayFromZero num den * den) : ℚ) ≤ 2 * num + den := by
    exact_mod_cast roundDiv_den_le .awayFromZero num hden
  have hlt : (2 * num : ℚ) < 2 * (roundDiv .awayFromZero num den * den) + den := by
    exact_mod_cast lt_roundDiv_den num hden
  rw [round_eq_iff, Int.cast_natCast]
  constructor
  · rw [le_div_iff₀ hpos]
    linarith
  · rw [div_lt_iff₀ hpos]
    linarith

/-- Of the whole numbers nearest to one that is not negative, rounding takes the largest. -/
theorem abs_le_abs_round {x : ℚ} (hx : 0 ≤ x) {k : ℤ} (h : |x - k| = |x - round x|) :
    |k| ≤ |round x| := by
  obtain ⟨hlow, hhigh⟩ := round_eq_iff.mp (rfl : round x = round x)
  rcases abs_eq_abs.mp h with hk | hk
  · have hk : (k : ℚ) = round x := by linarith
    rw [Int.cast_injective hk]
  · -- the two lie evenly around `x`, which is less than a half above the one that is taken
    have hk' : (k : ℚ) < round x + 1 := by linarith
    have hlt : k < round x + 1 := by exact_mod_cast hk'
    have hsum : (0 : ℚ) ≤ k + round x := by linarith
    have hnonneg : 0 ≤ k + round x := by exact_mod_cast hsum
    rw [abs_le, abs_of_nonneg (by omega)]
    omega

theorem isNearestTenth_roundDiv (num : Nat) {den : Nat} (hden : 0 < den) :
    IsNearestTenth (num / den) (roundDiv .awayFromZero (num * 10) den / 10) := by
  have hround := roundDiv_eq_round (num * 10) hden
  generalize roundDiv .awayFromZero (num * 10) den = n at hround ⊢
  have hx : ((num * 10 : ℕ) / den : ℚ) = 10 * (num / den) := by
    push_cast
    ring
  have hnonneg : (0 : ℚ) ≤ num / den := by positivity
  rw [hx] at hround
  generalize (num / den : ℚ) = q at hround hnonneg ⊢
  have hround' : round (10 * q) / 10 = (n / 10 : ℚ) := by rw [hround, Int.cast_natCast]
  refine ⟨⟨n, by rw [Int.cast_natCast]⟩, fun k => ?_, fun k hk => ?_⟩
  · have hle := round_le (10 * q) k
    rw [abs_ten_mul_sub, abs_ten_mul_sub, hround'] at hle
    linarith
  · have hle : |k| ≤ |round (10 * q)| := by
      refine abs_le_abs_round (by linarith) ?_
      rw [abs_ten_mul_sub, abs_ten_mul_sub, hround', hk]
    have hle' : |(k : ℚ)| ≤ |(round (10 * q) : ℚ)| := by exact_mod_cast hle
    rw [← hround', abs_div, abs_div]
    linarith

end Nesting
