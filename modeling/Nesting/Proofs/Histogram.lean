import Mathlib.Algebra.BigOperators.Group.Finset.Basic
import Mathlib.Algebra.GroupWithZero.Nat
import Mathlib.Algebra.Ring.Int.Defs
import Nesting.Moments

/-!
# The histogram of depths

`depthCounts` lists each depth that occurs with the number of its lines (`mem_depthCounts`), in
ascending order (`pairwise_depthCounts`), so that it ends with the greatest (`maxDepth_eq`). The
numbers add up to that of all lines (`sum_depthCounts`), and the depths, each so many times, to the
sum of all depths (`sum_mul_depthCounts`).

Read as a map (`countIn`), it gives every depth its number, zero for the depths that it does not
list (`countIn_depthCounts`). So histograms that are read as maps depend on their depths as a
multiset only.
-/

namespace Nesting

/-- The number that a histogram gives a depth. -/
def countIn (counts : List (Int × Nat)) (depth : Int) : Nat :=
  (counts.lookup depth).getD 0

/-! ## Depths without repeats -/

theorem eraseReps_loop (a : Int) (rest done : List Int) :
    List.eraseRepsBy.loop (· == ·) a rest done = done.reverse ++ (a :: rest).eraseReps := by
  induction rest generalizing a done with
  | nil => simp [List.eraseReps, List.eraseRepsBy, List.eraseRepsBy.loop]
  | cons b rest ih =>
      have hcons : (a :: b :: rest).eraseReps =
          List.eraseRepsBy.loop (· == ·) a (b :: rest) [] := rfl
      rw [hcons, List.eraseRepsBy.loop, List.eraseRepsBy.loop]
      cases a == b <;> simp [ih]

@[simp] theorem eraseReps_singleton (a : Int) : [a].eraseReps = [a] := rfl

theorem eraseReps_cons_cons (a b : Int) (rest : List Int) :
    (a :: b :: rest).eraseReps =
      if a = b then (b :: rest).eraseReps else a :: (b :: rest).eraseReps := by
  have hcons : (a :: b :: rest).eraseReps =
      List.eraseRepsBy.loop (· == ·) a (b :: rest) [] := rfl
  rw [hcons, List.eraseRepsBy.loop]
  by_cases h : a = b
  · simp [h, eraseReps_loop]
  · simp [h, beq_eq_false_iff_ne.mpr h, eraseReps_loop]

theorem mem_eraseReps {x : Int} {depths : List Int} : x ∈ depths.eraseReps ↔ x ∈ depths := by
  induction depths with
  | nil => rfl
  | cons a rest ih =>
      cases rest with
      | nil => simp
      | cons b rest =>
          rw [eraseReps_cons_cons]
          split
          · next heq => simp [ih, heq]
          · rw [List.mem_cons, ih, ← List.mem_cons]

/-- What is left of ascending depths without repeats ascends strictly. -/
theorem pairwise_eraseReps {depths : List Int} (h : depths.Pairwise (· ≤ ·)) :
    depths.eraseReps.Pairwise (· < ·) := by
  induction h with
  | nil => exact .nil
  | @cons a rest ha hrest ih =>
      cases rest with
      | nil => simp
      | cons b rest =>
          rw [eraseReps_cons_cons]
          split
          · exact ih
          · next hne =>
              refine .cons (fun x hx => ?_) ih
              have hab := ha b List.mem_cons_self
              rcases List.mem_cons.mp (mem_eraseReps.mp hx) with rfl | hx
              · omega
              · have hbx := (List.pairwise_cons.mp hrest).1 x hx
                omega

theorem getLast?_eraseReps (depths : List Int) : depths.eraseReps.getLast? = depths.getLast? := by
  induction depths with
  | nil => rfl
  | cons a rest ih =>
      cases rest with
      | nil => rfl
      | cons b rest =>
          rw [eraseReps_cons_cons, List.getLast?_cons_cons, ← ih]
          split
          · rfl
          · cases h : (b :: rest).eraseReps with
            | nil =>
                have hb : b ∈ (b :: rest).eraseReps := mem_eraseReps.mpr List.mem_cons_self
                simp [h] at hb
            | cons c cs => rw [List.getLast?_cons_cons]

/-! ## Sorted depths -/

theorem pairwise_sortDepths (depths : List Int) : (sortDepths depths).Pairwise (· ≤ ·) := by
  have htrans : ∀ a b c : Int, decide (a ≤ b) = true → decide (b ≤ c) = true →
      decide (a ≤ c) = true := by
    intro a b c hab hbc
    simp only [decide_eq_true_eq] at *
    omega
  have htotal : ∀ a b : Int, (decide (a ≤ b) || decide (b ≤ a)) = true := by
    intro a b
    simp only [Bool.or_eq_true, decide_eq_true_eq]
    omega
  exact (List.pairwise_mergeSort htrans htotal depths).imp of_decide_eq_true

theorem perm_sortDepths (depths : List Int) : (sortDepths depths).Perm depths :=
  List.mergeSort_perm depths _

@[simp] theorem length_sortDepths (depths : List Int) :
    (sortDepths depths).length = depths.length :=
  (perm_sortDepths depths).length_eq

theorem mem_sortDepths {x : Int} {depths : List Int} : x ∈ sortDepths depths ↔ x ∈ depths :=
  (perm_sortDepths depths).mem_iff

/-! ## Counts -/

theorem mem_depthCounts {depths : List Int} {d : Int} {n : Nat} :
    (d, n) ∈ depthCounts depths ↔ 0 < n ∧ n = depths.count d := by
  simp only [depthCounts, List.mem_map, mem_eraseReps, mem_sortDepths, Prod.mk.injEq]
  constructor
  · rintro ⟨d', hd', rfl, rfl⟩
    exact ⟨List.count_pos_iff.mpr hd', rfl⟩
  · rintro ⟨hpos, rfl⟩
    exact ⟨d, List.count_pos_iff.mp hpos, rfl, rfl⟩

theorem pairwise_depthCounts (depths : List Int) :
    (depthCounts depths).Pairwise fun p q => p.1 < q.1 := by
  rw [depthCounts, List.pairwise_map]
  exact pairwise_eraseReps (pairwise_sortDepths depths)

/-- A sum over the depths that a histogram lists is one over the depths that occur. -/
theorem sum_map_eraseReps {M : Type} [AddCommMonoid M] (f : Int → M) (depths : List Int) :
    ((sortDepths depths).eraseReps.map f).sum = ∑ d ∈ depths.toFinset, f d := by
  have hnodup : (sortDepths depths).eraseReps.Nodup :=
    (pairwise_eraseReps (pairwise_sortDepths depths)).imp fun h => Int.ne_of_lt h
  have hset : (sortDepths depths).eraseReps.toFinset = depths.toFinset := by
    ext d
    rw [List.mem_toFinset, List.mem_toFinset, mem_eraseReps, mem_sortDepths]
  rw [← hset, List.sum_toFinset f hnodup]

/-- The counts of all depths are as many as there are lines. -/
theorem sum_depthCounts (depths : List Int) :
    ((depthCounts depths).map Prod.snd).sum = depths.length := by
  rw [depthCounts, List.map_map, ← List.sum_toFinset_count_eq_length]
  exact sum_map_eraseReps (fun d => depths.count d) depths

/-- The depths of a histogram, each as often as it counts, add up to the depths of all lines. -/
theorem sum_mul_depthCounts (depths : List Int) :
    ((depthCounts depths).map fun p => p.1 * (p.2 : Int)).sum = depths.sum := by
  have hlisted := sum_map_eraseReps (fun d => d * (depths.count d : Int)) depths
  rw [depthCounts, List.map_map, Finset.sum_list_count depths]
  refine hlisted.trans (Finset.sum_congr rfl fun d _ => ?_)
  rw [nsmul_eq_mul]
  exact Int.mul_comm d (depths.count d)

/-- The greatest depth is the last of the histogram. -/
theorem maxDepth_eq (depths : List Int) :
    maxDepth depths = ((depthCounts depths).getLast?.map Prod.fst).getD 0 := by
  rw [maxDepth, depthCounts, List.getLast?_map, getLast?_eraseReps, Option.map_map]
  cases (sortDepths depths).getLast? <;> rfl

theorem countIn_depthCounts (depths : List Int) (depth : Int) :
    countIn (depthCounts depths) depth = depths.count depth := by
  have hmem : depth ∈ (sortDepths depths).eraseReps ↔ depth ∈ depths :=
    mem_eraseReps.trans mem_sortDepths
  rw [countIn, depthCounts]
  by_cases h : depth ∈ depths
  · rw [List.lookup_graph _ (hmem.mpr h), Option.getD_some]
  · rw [List.count_eq_zero_of_not_mem h, List.lookup_eq_none_iff.mpr, Option.getD_none]
    intro p hp
    obtain ⟨d, hd, rfl⟩ := List.mem_map.mp hp
    have hne : depth ≠ d := fun heq => h (hmem.mp (heq ▸ hd))
    simpa using hne

/-- The histogram of two lists of depths together is the sum of theirs. -/
theorem countIn_depthCounts_of_perm {depths first second : List Int}
    (h : depths.Perm (first ++ second)) (depth : Int) :
    countIn (depthCounts depths) depth =
      countIn (depthCounts first) depth + countIn (depthCounts second) depth := by
  simp only [countIn_depthCounts]
  rw [h.count_eq, List.count_append]

end Nesting
