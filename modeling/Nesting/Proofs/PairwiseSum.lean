import Nesting.PairwiseSum

/-!
# Runs of a pairwise sum

Every list has a run (`SumsTo`), which tells its blocks and its halves, and all runs of a list end
with the same sum (`sumsTo_iff`).

Whatever the order of the additions, a sum is made of as many values as the list has. So a property
of sums that says how many values a sum counts for, and that additions keep, holds of the pairwise
sum for the length of the list (`Adds.pairwiseSum`).
-/

namespace Nesting

variable {α : Type} [Arithmetic α]

/-- The run of a pairwise sum: a short list is added as a block, and a longer one cut in two parts
which are summed first. -/
inductive SumsTo : List α → α → Prop where
  | block {xs : List α} : xs.length ≤ blockLimit → SumsTo xs (blockSum xs)
  | halves {xs : List α} {x y : α} : blockLimit < xs.length →
      SumsTo (xs.take (cutAt xs.length)) x → SumsTo (xs.drop (cutAt xs.length)) y →
        SumsTo xs (x + y)

/-- Every list has a run, and all of its runs end with its pairwise sum. -/
theorem sumsTo_iff {xs : List α} {x : α} : SumsTo xs x ↔ x = pairwiseSum xs := by
  constructor
  · intro h
    induction h with
    | block hshort => rw [pairwiseSum, if_neg (Nat.not_lt.mpr hshort)]
    | halves hlong _ _ ihx ihy => rw [pairwiseSum, if_pos hlong, ihx, ihy]
  · rintro rfl
    induction xs using pairwiseSum.induct with
    | case1 xs hlong ihtake ihdrop =>
        rw [pairwiseSum, if_pos hlong]
        exact .halves hlong ihtake ihdrop
    | case2 xs hshort =>
        rw [pairwiseSum, if_neg hshort]
        exact .block (Nat.not_lt.mp hshort)

/-! ## How many values a sum counts for -/

/-- Whether a property of sums of up to `limit` values holds of no value, and is kept when two sums
are added. -/
structure Adds (limit : Nat) (p : Nat → α → Prop) : Prop where
  zero : p 0 (Arithmetic.ofInt 0)
  add : ∀ {m n : Nat} {x y : α}, p m x → p n y → m + n ≤ limit → p (m + n) (x + y)

namespace Adds

variable {limit : Nat} {p : Nat → α → Prop}

theorem addAll (h : Adds limit p) {xs : List α} (hxs : ∀ x ∈ xs, p 1 x) {n : Nat} {start : α}
    (hstart : p n start) (hn : n + xs.length ≤ limit) :
    p (n + xs.length) (Nesting.addAll start xs) := by
  induction xs generalizing n start with
  | nil => exact hstart
  | cons x xs ih =>
      obtain ⟨hx, hxs⟩ := List.forall_mem_cons.mp hxs
      rw [List.length_cons] at hn ⊢
      have hstep := ih hxs (h.add hstart hx (by omega)) (by omega)
      rwa [Nat.add_assoc, Nat.add_comm 1] at hstep

/-- The sums of eight lanes that count for `n` values each. -/
theorem addLanes (h : Adds limit p) (r0 r1 r2 r3 r4 r5 r6 r7 : α) (xs : List α) {n : Nat}
    (h0 : p n r0) (h1 : p n r1) (h2 : p n r2) (h3 : p n r3) (h4 : p n r4) (h5 : p n r5)
    (h6 : p n r6) (h7 : p n r7) (hxs : ∀ x ∈ xs, p 1 x) (hn : 8 * n + xs.length ≤ limit) :
    p (8 * n + xs.length) (Nesting.addLanes r0 r1 r2 r3 r4 r5 r6 r7 xs) := by
  induction r0, r1, r2, r3, r4, r5, r6, r7, xs using Nesting.addLanes.induct generalizing n with
  | case1 r0 r1 r2 r3 r4 r5 r6 r7 x0 x1 x2 x3 x4 x5 x6 x7 rest ih =>
      simp only [List.forall_mem_cons] at hxs
      obtain ⟨hx0, hx1, hx2, hx3, hx4, hx5, hx6, hx7, hrest⟩ := hxs
      simp only [List.length_cons] at hn ⊢
      have hstep := ih (h.add h0 hx0 (by omega)) (h.add h1 hx1 (by omega))
        (h.add h2 hx2 (by omega)) (h.add h3 hx3 (by omega)) (h.add h4 hx4 (by omega))
        (h.add h5 hx5 (by omega)) (h.add h6 hx6 (by omega)) (h.add h7 hx7 (by omega)) hrest
        (by omega)
      have hcount : 8 * n + (rest.length + 1 + 1 + 1 + 1 + 1 + 1 + 1 + 1) =
          8 * (n + 1) + rest.length := by omega
      rw [Nesting.addLanes, hcount]
      exact hstep
  | case2 r0 r1 r2 r3 r4 r5 r6 r7 rest hshort =>
      have hlanes : p (n + n + (n + n) + (n + n + (n + n)))
          (((r0 + r1) + (r2 + r3)) + ((r4 + r5) + (r6 + r7))) :=
        h.add (h.add (h.add h0 h1 (by omega)) (h.add h2 h3 (by omega)) (by omega))
          (h.add (h.add h4 h5 (by omega)) (h.add h6 h7 (by omega)) (by omega)) (by omega)
      have hcount : 8 * n = n + n + (n + n) + (n + n + (n + n)) := by omega
      rw [Nesting.addLanes, hcount]
      · exact h.addAll hxs hlanes (by omega)
      · exact hshort

theorem blockSum (h : Adds limit p) {xs : List α} (hxs : ∀ x ∈ xs, p 1 x)
    (hn : xs.length ≤ limit) : p xs.length (Nesting.blockSum xs) := by
  rw [Nesting.blockSum.eq_def]
  split
  · next x0 x1 x2 x3 x4 x5 x6 x7 rest =>
      simp only [List.forall_mem_cons] at hxs
      obtain ⟨h0, h1, h2, h3, h4, h5, h6, h7, hrest⟩ := hxs
      simp only [List.length_cons] at hn ⊢
      have hcount : rest.length + 1 + 1 + 1 + 1 + 1 + 1 + 1 + 1 = 8 * 1 + rest.length := by omega
      rw [hcount]
      exact h.addLanes x0 x1 x2 x3 x4 x5 x6 x7 rest h0 h1 h2 h3 h4 h5 h6 h7 hrest (by omega)
  · have hsum := h.addAll hxs h.zero (by omega)
    rwa [Nat.zero_add] at hsum

/-- A property that counts the values of sums holds of the pairwise sum of values it holds of. -/
theorem pairwiseSum (h : Adds limit p) {xs : List α} (hxs : ∀ x ∈ xs, p 1 x)
    (hn : xs.length ≤ limit) : p xs.length (Nesting.pairwiseSum xs) := by
  induction xs using Nesting.pairwiseSum.induct with
  | case1 xs hlong ihtake ihdrop =>
      have hcut := cutAt_lt hlong
      have htake : (xs.take (cutAt xs.length)).length = cutAt xs.length := by
        rw [List.length_take]
        omega
      have hlength : (xs.take (cutAt xs.length)).length + (xs.drop (cutAt xs.length)).length =
          xs.length := by
        rw [htake, List.length_drop]
        omega
      have hsum := h.add (ihtake (fun x hx => hxs x (List.mem_of_mem_take hx)) (by omega))
        (ihdrop (fun x hx => hxs x (List.mem_of_mem_drop hx)) (by omega)) (by omega)
      rw [hlength] at hsum
      rw [Nesting.pairwiseSum, if_pos hlong]
      exact hsum
  | case2 xs hshort =>
      rw [Nesting.pairwiseSum, if_neg hshort]
      exact h.blockSum hxs hn

end Adds

end Nesting
