import Nesting.Comment
import Nesting.Proofs.Binary64.Bounds
import Nesting.Proofs.Counting
import Nesting.Proofs.PairwiseSum
import Nesting.Proofs.Reordering
import Nesting.Proofs.Steps

/-!
# Flat texts

A text in which no line is indented has no depth, and a text in which some line is has some depth:
the unit that is detected is never wider than all of the indentation that it measures. For the step
that the unit is taken from fits the text (`Indent.exists_of_detect`), and a line whose lead is no
shorter than the step is at least one level deep (`Line.one_le_depth`), so that such a line counts
for something unless it does not count at all.

Lines of blanks do not count, and nor do comments. So the equivalence (`listing_flat_iff`) is about
texts whose indented lines all have something in them, listed with their comments.
-/

namespace Nesting

/-! ## One line -/

namespace Line

variable {l : Line} {r s : Run}

theorem depth_of_isFlush (h : IsFlush l) (unit : Int) : l.depth unit = 0 := by
  have hmargin := depth_append h unit []
  rw [List.nil_append] at hmargin
  rw [hmargin]
  exact Int.zero_fdiv unit

/-- A line whose lead is no shorter than a step of its kind is at least one level deep. -/
theorem one_le_depth (hlead : l.lead = some r) (hkind : r.kind = s.kind) (hpos : 0 < s.length)
    (hle : s.length ≤ r.length) : 1 ≤ l.depth (Indent.ofRun s).unit := by
  obtain ⟨k, n⟩ := s
  dsimp only at hkind hpos hle
  subst hkind
  have hcount := length_le_count_margin hlead
  cases hk : r.kind with
  | space =>
      rw [hk] at hcount
      have hspaces : (n : Int) ≤ l.marginSpaces := by
        rw [marginSpaces]
        exact_mod_cast hle.trans hcount
      have hunit : (Indent.ofRun ⟨.space, n⟩).unit = n := Indent.unit_ofRun_space hpos
      have hlevel : 1 ≤ (l.marginSpaces : Int) / n := by
        rw [Int.le_ediv_iff_mul_le (by omega)]
        omega
      rw [hunit, depth_eq (by omega), Int.fdiv_eq_ediv_of_nonneg _ (by omega)]
      omega
  | tab =>
      rw [hk] at hcount
      have htabs : 1 ≤ l.marginTabs := hpos.trans_le (hle.trans hcount)
      have hunit : (Indent.ofRun ⟨.tab, n⟩).unit = 1 := rfl
      rw [hunit, depth_eq one_ne_zero, Int.fdiv_one]
      omega

end Line

/-! ## Measures of flat lines -/

theorem maxDepth_of_flat {depths : List Int} (h : ∀ d ∈ depths, d = 0) : maxDepth depths = 0 := by
  rw [maxDepth]
  cases hlast : (sortDepths depths).getLast? with
  | none => rfl
  | some d => exact h d (mem_sortDepths.mp (List.mem_of_getLast? hlast))

theorem depthSum_of_flat {depths : List Int} (h : ∀ d ∈ depths, d = 0) : depthSum depths = 0 := by
  have hsum : depths.foldr (· + ·) 0 = 0 := List.sum_eq_zero h
  rw [depthSum, hsum]
  rfl

theorem pairwiseSum_eq_zero {xs : List Float} (h : ∀ x ∈ xs, x = 0) : pairwiseSum xs = 0 := by
  have hadds : Adds xs.length fun _ (x : Float) => x = 0 := by
    refine ⟨rfl, ?_⟩
    rintro _ _ _ _ rfl rfl -
    rfl
  exact hadds.pairwiseSum h le_rfl

/-- The mean of zeros is zero in doubles too, however many they are. -/
theorem Moments.average_eq_zero {xs : List Float} (hpos : 0 < xs.length) (h : ∀ x ∈ xs, x = 0) :
    average xs = 0 := by
  rw [average, pairwiseSum_eq_zero h]
  exact Binary64.zero_div_nearestInt hpos

theorem Measures.score_of_flat {depths : List Int} (h : ∀ d ∈ depths, d = 0) :
    (ofDepths depths).score = 0 := by
  rw [score, ofDepths]
  dsimp only
  rw [Moments.ofDepths]
  split
  · rfl
  · next hne =>
      refine Moments.average_eq_zero ?_ fun x hx => ?_
      · rw [List.length_map, List.length_map, length_sortDepths]
        exact List.length_pos_iff.mpr hne
      · obtain ⟨y, hy, rfl⟩ := List.mem_map.mp hx
        obtain ⟨d, hd, rfl⟩ := List.mem_map.mp hy
        rw [h d (mem_sortDepths.mp hd)]
        rfl

theorem measure_of_flat {depths : List Int} (h : ∀ d ∈ depths, d = 0) :
    measure depths = .ok (.ofDepths depths) := by
  refine measure_eq_ok_iff.mpr ⟨fun d hd => ?_, rfl⟩
  rw [h d hd]
  norm_num

/-! ## Flat texts -/

/-- Of a text whose indented lines all have something in them, one that is indented is at least one
level deep, if there is any. -/
theorem Listing.exists_one_le_depth {text : String}
    (h : ∀ l ∈ linesOf text, ¬l.IsFlush → ∃ c ∈ l, isBlank c = false)
    (hindented : ∃ l ∈ linesOf text, ¬l.IsFlush) :
    ∃ c ∈ (ofText (Comment.drops none) text).lines, 1 ≤ c.depth := by
  obtain ⟨s, hdetect, hpos, l, hl, r, ⟨hlead, -⟩, hkind, hle⟩ :=
    Indent.exists_of_detect hindented
  obtain ⟨x, hx, hblank⟩ := h l hl (Line.not_isFlush_of_lead hlead)
  have htrim : l.trim ≠ [] := by
    intro hnil
    rw [Line.trim_eq_nil_iff.mp hnil x hx] at hblank
    cases hblank
  obtain ⟨i, hi⟩ := List.mem_iff_getElem?.mp hl
  refine ⟨⟨1 + i, l.depth (Indent.detect (linesOf text)).unit, String.ofList l.trim⟩, ?_, ?_⟩
  · show _ ∈ countFrom 1 _ _ (linesOf text)
    refine mem_countFrom.mpr ⟨i, l, hi, CountedLine.ofLine?_eq_some_iff.mpr ⟨htrim, rfl, ?_⟩⟩
    rw [Nat.cast_add, Nat.cast_one]
  · rw [hdetect]
    exact Line.one_le_depth hlead hkind hpos hle

/-- A text whose indented lines all have something in them is flat, all lines of its listing with
comments, just when no line starts with a space or a tab. If some line does, some line is at least
one level deep; if none does, greatest depth, sum and score are zero. -/
theorem listing_flat_iff {text : String}
    (h : ∀ l ∈ linesOf text, ¬l.IsFlush → ∃ c ∈ l, isBlank c = false) :
    let listing := Listing.ofText (Comment.drops none) text
    ((∀ d ∈ listing.depths, d = 0) ↔ ∀ l ∈ linesOf text, l.IsFlush)
      ∧ ((∃ l ∈ linesOf text, ¬l.IsFlush) → ∃ c ∈ listing.lines, 1 ≤ c.depth)
      ∧ ((∀ d ∈ listing.depths, d = 0) →
          ∃ m, measure listing.depths = .ok m ∧ m.max = 0 ∧ m.sum = 0 ∧ m.score = 0) := by
  intro listing
  have hdeep := Listing.exists_one_le_depth h
  refine ⟨⟨?_, ?_⟩, hdeep, ?_⟩
  · intro hflat
    by_contra hmargin
    simp only [not_forall, exists_prop] at hmargin
    obtain ⟨c, hc, hdepth⟩ := hdeep hmargin
    have hzero := hflat c.depth (List.mem_map.mpr ⟨c, hc, rfl⟩)
    omega
  · intro hflush d hd
    obtain ⟨c, hc, rfl⟩ := List.mem_map.mp hd
    obtain ⟨i, l, hl, -, -, rfl⟩ := mem_countFrom_iff.mp hc
    exact Line.depth_of_isFlush (hflush l (List.mem_of_getElem? hl)) _
  · intro hflat
    exact ⟨_, measure_of_flat hflat, maxDepth_of_flat hflat, depthSum_of_flat hflat,
      Measures.score_of_flat hflat⟩

/-- A single space, two spaces that the step is taken from, and a tab behind a single space. -/
theorem listing_flat_iff_mixed :
    let text := textOf [['a'], [' ', 'b'], [' ', ' ', 'c'], [' ', '\t', 'd']]
    (∀ l ∈ linesOf text, ¬l.IsFlush → ∃ c ∈ l, isBlank c = false)
      ∧ (∃ l ∈ linesOf text, ¬l.IsFlush)
      ∧ ∃ c ∈ (Listing.ofText (Comment.drops none) text).lines, 1 ≤ c.depth := by
  intro text
  have hlines : linesOf text = [['a'], [' ', 'b'], [' ', ' ', 'c'], [' ', '\t', 'd']] :=
    linesOf_textOf (by simp) (by simp)
  have hfilled : ∀ l ∈ linesOf text, ¬l.IsFlush → ∃ c ∈ l, isBlank c = false := by
    rw [hlines]
    rintro l hl hmargin
    simp only [List.mem_cons, List.not_mem_nil, or_false] at hl
    rcases hl with rfl | rfl | rfl | rfl
    · exact absurd (by decide) hmargin
    · exact ⟨'b', by simp, rfl⟩
    · exact ⟨'c', by simp, rfl⟩
    · exact ⟨'d', by simp, rfl⟩
  have hindented : ∃ l ∈ linesOf text, ¬l.IsFlush := by
    rw [hlines]
    decide
  exact ⟨hfilled, hindented, (listing_flat_iff hfilled).2.1 hindented⟩

end Nesting
