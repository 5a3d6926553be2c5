import Mathlib.Data.List.Perm.Basic
import Nesting.Proofs.Histogram
import Nesting.Proofs.Outcomes
import Nesting.Report

/-!
# Lines in another order

The statistics of a listing do not depend on the order of its lines. Sums of doubles do depend on
the order of their terms, so this rests on the sorting before every sum: the sorted depths are the
same just when the depths are the same as a multiset (`sortDepths_eq_iff_perm`), and so are the
histograms (`depthCounts_eq_iff_perm`). Nothing is asked of the arithmetic of the sums
(`Moments.ofDepths_eq_of_perm`).

All that a report tells but the lines themselves (`Report.figures`) follows
(`figures_build_of_perm`).
-/

namespace Nesting

variable {depths depths' : List Int}

/-! ## Sorted depths -/

theorem sortDepths_eq_iff_perm : sortDepths depths = sortDepths depths' ↔ depths.Perm depths' := by
  constructor
  · intro h
    exact (perm_sortDepths depths).symm.trans (h ▸ perm_sortDepths depths')
  · intro h
    have hperm : (sortDepths depths).Perm (sortDepths depths') :=
      (perm_sortDepths depths).trans (h.trans (perm_sortDepths depths').symm)
    exact hperm.eq_of_pairwise (fun a b _ _ hab hba => Int.le_antisymm hab hba)
      (pairwise_sortDepths depths) (pairwise_sortDepths depths')

/-- Depths have the same histogram just when they are the same as a multiset. -/
theorem depthCounts_eq_iff_perm :
    depthCounts depths = depthCounts depths' ↔ depths.Perm depths' := by
  constructor
  · intro h
    refine List.perm_iff_count.mpr fun d => ?_
    rw [← countIn_depthCounts, h, countIn_depthCounts]
  · intro h
    have hcount : ∀ d, depths.count d = depths'.count d := fun d => h.count_eq d
    simp only [depthCounts, sortDepths_eq_iff_perm.mpr h, hcount]

/-! ## What is measured -/

theorem Moments.ofDepths_eq_of_perm (α : Type) [Arithmetic α] (h : depths.Perm depths') :
    (Moments.ofDepths depths : Moments α) = Moments.ofDepths depths' := by
  have hnil : depths = [] ↔ depths' = [] := by
    rw [← List.length_eq_zero_iff, ← List.length_eq_zero_iff, h.length_eq]
  simp only [Moments.ofDepths, hnil, sortDepths_eq_iff_perm.mpr h]

theorem depthSum_eq_of_perm (h : depths.Perm depths') : depthSum depths = depthSum depths' := by
  have hsum : depths.foldr (· + ·) 0 = depths'.foldr (· + ·) 0 :=
    h.foldr_eq' (fun x _ y _ z => Int.add_left_comm y x z) 0
  rw [depthSum, depthSum, hsum]

theorem Measures.ofDepths_eq_of_perm (h : depths.Perm depths') :
    Measures.ofDepths depths = Measures.ofDepths depths' := by
  rw [Measures.ofDepths, Measures.ofDepths, Moments.ofDepths_eq_of_perm Float h, h.length_eq,
    depthSum_eq_of_perm h, maxDepth, maxDepth, sortDepths_eq_iff_perm.mpr h,
    depthCounts_eq_iff_perm.mpr h]

/-- Depths are measured just when each fits into 64 bits with a sign. -/
theorem measure_eq_ok_iff {m : Measures} :
    measure depths = .ok m ↔ (∀ d ∈ depths, -2 ^ 63 ≤ d ∧ d < 2 ^ 63) ∧ m = .ofDepths depths := by
  have hall : depths.all isStorable = true ↔ ∀ d ∈ depths, -2 ^ 63 ≤ d ∧ d < 2 ^ 63 := by
    simp [isStorable]
  rw [measure, ← hall]
  split
  · next h =>
      rw [pure_eq_ok, Except.ok.injEq, eq_comm]
      simp [h]
  · next h => simp [h]

/-- Depths in another order are measured alike, or refused alike. -/
theorem measure_eq_of_perm (h : depths.Perm depths') : measure depths = measure depths' := by
  have hall : depths.all isStorable = depths'.all isStorable := by
    rw [Bool.eq_iff_iff, List.all_eq_true, List.all_eq_true]
    exact ⟨fun hs d hd => hs d (h.mem_iff.mpr hd), fun hs d hd => hs d (h.mem_iff.mp hd)⟩
  rw [measure, measure, hall, Measures.ofDepths_eq_of_perm h]

/-! ## Reports -/

/-- All that a report tells but the lines themselves. -/
def Report.figures (r : Report) : Grade × Option Measures :=
  (r.grade, r.measures?)

/-- The figures of the report of lines with some measures. -/
def Measures.figures (m : Measures) (tier : Tier) (thresholds : ThresholdChoice) :
    Outcome (Grade × Option Measures) := do
  let a ← assess (.float m.score) (← thresholds.resolve)
  return (⟨m.score, a.level, a.reason⟩, if tier = .brief then none else some m)

theorem map_figures_build (lines : List CountedLine) (tier : Tier) (thresholds : ThresholdChoice) :
    (Report.build lines tier thresholds).map Report.figures =
      (measure (lines.map (·.depth))).bind (·.figures tier thresholds) := by
  rw [Report.build]
  cases measure (lines.map (·.depth)) with
  | error e => rfl
  | ok m =>
      simp only [bind, Except.bind, Measures.figures]
      cases thresholds.resolve with
      | error e => rfl
      | ok t =>
          cases hassess : assess (.float m.score) t with
          | error e => simp only [hassess, Except.map]
          | ok a => cases tier <;> simp only [hassess] <;> rfl

/-- Lines whose depths are the same as a multiset, which is to say that their histograms are the
same, have reports with the same figures in every tier, or are refused with the same error; and the
moments are the same whatever the arithmetic is that they are computed in. -/
theorem figures_build_of_perm (lines lines' : List CountedLine) :
    ((lines.map (·.depth)).Perm (lines'.map (·.depth)) ↔
        depthCounts (lines.map (·.depth)) = depthCounts (lines'.map (·.depth)))
      ∧ ((lines.map (·.depth)).Perm (lines'.map (·.depth)) →
          (∀ tier thresholds, (Report.build lines tier thresholds).map Report.figures =
            (Report.build lines' tier thresholds).map Report.figures)
          ∧ ∀ (α : Type) [Arithmetic α],
              (Moments.ofDepths (lines.map (·.depth)) : Moments α) =
                Moments.ofDepths (lines'.map (·.depth))) := by
  refine ⟨depthCounts_eq_iff_perm.symm, fun h => ⟨fun tier thresholds => ?_, fun α _ => ?_⟩⟩
  · rw [map_figures_build, map_figures_build, measure_eq_of_perm h]
  · exact Moments.ofDepths_eq_of_perm α h

/-- Four lines in two orders: two of them are as deep as each other, and one is less than flat. -/
theorem figures_build_of_perm_four :
    let lines : List CountedLine := [⟨1, 2, "a"⟩, ⟨2, 0, "b"⟩, ⟨3, 2, "c"⟩, ⟨4, -1, "d"⟩]
    let lines' : List CountedLine := [⟨1, -1, "d"⟩, ⟨2, 2, "c"⟩, ⟨3, 2, "a"⟩, ⟨4, 0, "b"⟩]
    (lines.map (·.depth)).Perm (lines'.map (·.depth))
      ∧ (Report.build lines .listed .standard).map Report.figures =
          (Report.build lines' .listed .standard).map Report.figures := by
  intro lines lines'
  have hperm : (lines.map (·.depth)).Perm (lines'.map (·.depth)) := by decide
  exact ⟨hperm, ((figures_build_of_perm lines lines').2 hperm).1 .listed .standard⟩

end Nesting
