import Nesting.Proofs.Binary64.Bounds
import Nesting.Proofs.Detection
import Nesting.Proofs.Diff.Count
import Nesting.Proofs.PairwiseSum
import Nesting.Proofs.Reordering

/-!
# How high a score can be

A line is at most as deep as it is long, and a text has no more lines than characters and one
(`Listing.within_ofText`, `Listing.within_ofDiff`). So the squares of the depths of a text that is
not too long are bounded by a double, and the same double bounds their mean, which is the score
(`isUpTo_score`).
-/

namespace Nesting

/-! ## Depths of a text -/

/-- A text is its lines and a line feed between each two. -/
theorem sum_length_splitLines (text : List Char) :
    ((splitLines text).map List.length).sum + (splitLines text).length = text.length + 1 := by
  induction text with
  | nil => rfl
  | cons c rest ih =>
      by_cases hc : c = '\n'
      · subst hc
        rw [splitLines_newline, List.map_cons, List.sum_cons, List.length_cons, List.length_nil,
          List.length_cons]
        omega
      · rw [splitLines_cons hc]
        cases hsplit : splitLines rest with
        | nil => exact absurd hsplit (splitLines_ne_nil rest)
        | cons l ls =>
            simp only [hsplit, List.modifyHead_cons, List.map_cons, List.sum_cons,
              List.length_cons] at ih ⊢
            omega

theorem length_splitLines_le (text : List Char) :
    (splitLines text).length ≤ text.length + 1 ∧ ∀ l ∈ splitLines text, l.length ≤ text.length := by
  have hsum := sum_length_splitLines text
  have hpos := List.length_pos_iff.mpr (splitLines_ne_nil text)
  refine ⟨by omega, fun l hl => ?_⟩
  have hmem : l.length ∈ (splitLines text).map List.length := List.mem_map.mpr ⟨l, hl, rfl⟩
  have hle := List.single_le_sum (fun n _ => Nat.zero_le n) _ hmem
  omega

namespace Listing

/-- Whether a listing has no more than a number of lines, each between flat and that deep, and has
measured them by a unit that is one. -/
structure Within (l : Listing) (bound : Nat) : Prop where
  unit_pos : 0 < l.unit
  length_le : l.lines.length ≤ bound
  depths : ∀ d ∈ l.depths, 0 ≤ d ∧ d ≤ bound

theorem within_of_lines {drops : Line → Bool} {lines all : List Line} {bound : Nat}
    (hlength : lines.length ≤ bound) (hlines : ∀ l ∈ lines, l.length ≤ bound) :
    Within ⟨countLines (Indent.detect all).unit drops lines, Indent.detect all⟩ bound where
  unit_pos := Indent.unit_pos all
  length_le := by
    rw [countLines]
    refine (List.length_filterMap_le _ _).trans ?_
    rwa [List.length_zipIdx]
  depths := by
    intro d hd
    obtain ⟨c, hc, rfl⟩ := List.mem_map.mp hd
    obtain ⟨i, l, hl, -, -, rfl⟩ := mem_countFrom_iff.mp hc
    have hbounds := l.depth_bounds (Indent.unit_pos all)
    have hmargin := l.length_margin_le
    have hle := hlines l (List.mem_of_getElem? hl)
    dsimp only
    omega

theorem within_ofText (drops : Line → Bool) {text : String} {bound : Nat}
    (h : text.length < bound) : Within (ofText drops text) bound := by
  rw [← String.length_toList] at h
  obtain ⟨hlength, hlines⟩ := length_splitLines_le text.toList
  exact within_of_lines (by rw [linesOf]; omega) fun l hl => (hlines l hl).trans h.le

theorem within_ofDiff (which : Include) (drops : Line → Bool) {diff : String} {bound : Nat}
    (h : diff.length < bound) : Within (ofDiff which drops diff) bound := by
  rw [← String.length_toList] at h
  obtain ⟨hlength, hlines⟩ := length_splitLines_le diff.toList
  rw [ofDiff, ofDiffLines_eq]
  refine within_of_lines ?_ fun l hl => ?_
  · rw [Diff.askedLines, List.length_map]
    refine (List.length_filter_le _ _).trans ?_
    rw [linesOf]
    omega
  · obtain ⟨l', hl', rfl⟩ := List.mem_map.mp hl
    have hle := hlines l' (List.mem_of_mem_filter hl')
    rw [List.length_drop]
    omega

end Listing

/-! ## The mean of the squares -/

open Binary64

/-- A sum of doubles up to a power of two is at most the same power for each of them. -/
theorem adds_isUpTo {n : Nat} (hn : n ≤ 971) :
    Adds (2 ^ 53 - 1) fun k (x : Float) => IsUpTo x (k * 2 ^ n) where
  zero := isUpTo_nearestInt (by norm_num) (by simp)
  add := by
    intro j k x y hx hy hle
    refine isUpTo_add hx hy (isDouble_nat (by omega) n hn) (le_of_eq ?_)
    push_cast
    ring

theorem isUpTo_average {n : Nat} (hn : n ≤ 971) {xs : List Float} (hne : xs ≠ [])
    (hlength : xs.length < 2 ^ 53) (hxs : ∀ x ∈ xs, IsUpTo x (2 ^ n)) :
    IsUpTo (Moments.average xs) (2 ^ n) := by
  have hone : ∀ x ∈ xs, IsUpTo x ((1 : Nat) * 2 ^ n) := by simpa using hxs
  have hsum := (adds_isUpTo hn).pairwiseSum hone (by omega)
  refine isUpTo_div_nearestInt hsum (List.length_pos_iff.mpr hne) hlength (isDouble_two_pow hn)
    (le_of_eq ?_)
  ring

/-- The score of depths up to `2 ^ 44` is at most the square of that. -/
theorem isUpTo_score {depths : List Int} (hlength : depths.length < 2 ^ 53)
    (h : ∀ d ∈ depths, 0 ≤ d ∧ d ≤ 2 ^ 44) : IsUpTo (Measures.ofDepths depths).score (2 ^ 88) := by
  rw [Measures.score, Measures.ofDepths]
  dsimp only
  rw [Moments.ofDepths]
  split
  · exact isUpTo_nearestInt (by norm_num) (by positivity)
  · next hne =>
      have hdepths : ∀ x ∈ (sortDepths depths).map Arithmetic.ofInt, IsUpTo x (2 ^ 44) := by
        intro x hx
        obtain ⟨d, hd, rfl⟩ := List.mem_map.mp hx
        obtain ⟨hnonneg, hle⟩ := h d (mem_sortDepths.mp hd)
        obtain ⟨n, rfl⟩ := Int.eq_ofNat_of_zero_le hnonneg
        have hn : n ≤ 2 ^ 44 := by exact_mod_cast hle
        exact isUpTo_nearestInt (by omega) (by exact_mod_cast hn)
      refine isUpTo_average (by norm_num) ?_ ?_ ?_
      · rwa [ne_eq, List.map_eq_nil_iff, List.map_eq_nil_iff, ← List.length_eq_zero_iff,
          length_sortDepths, List.length_eq_zero_iff]
      · rwa [List.length_map, List.length_map, length_sortDepths]
      · intro x hx
        obtain ⟨y, hy, rfl⟩ := List.mem_map.mp hx
        exact isUpTo_mul (hdepths y hy) (hdepths y hy) (isDouble_two_pow (by norm_num))
          (by norm_num)

namespace Listing

def score (l : Listing) : Float :=
  (Measures.ofDepths l.depths).score

variable {l : Listing}

theorem Within.isUpTo_score (h : l.Within (2 ^ 44)) : IsUpTo l.score (2 ^ 88) := by
  refine Nesting.isUpTo_score ?_ h.depths
  rw [Listing.depths, List.length_map]
  exact h.length_le.trans_lt (by norm_num)

theorem Within.measure_eq_ok (h : l.Within (2 ^ 44)) :
    measure l.depths = .ok (.ofDepths l.depths) := by
  refine measure_eq_ok_iff.mpr ⟨fun d hd => ?_, rfl⟩
  obtain ⟨hnonneg, hle⟩ := h.depths d hd
  omega

end Listing

end Nesting
