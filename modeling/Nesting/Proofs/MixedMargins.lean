import Mathlib.Data.Rat.Floor
import Nesting.Proofs.Margin

/-!
# Margins of tabs and spaces

A depth is one division of columns, but it comes to the same as counting the two kinds of margin by
themselves: every tab is a level, and the spaces make as many levels as the unit goes into them. So
a depth is known from the two counts (`Line.depth_eq_of_counts`), and what leaves them alone, or
trades a tab for a unit of spaces, leaves the depth alone (`depth_of_margin`). All of it holds of a
negative unit, too, as long as nothing is said of its sign: the quotient is rounded down in any
case (`fdiv_eq_floor`).
-/

namespace Nesting

/-- A quotient rounded down is the floor of the exact quotient, whatever the signs. -/
theorem fdiv_eq_floor (a b : Int) : a.fdiv b = ⌊(a : ℚ) / b⌋ := by
  have hnat : ∀ (a : Int) (n : Nat), a.fdiv n = ⌊(a : ℚ) / n⌋ := by
    intro a n
    rw [Int.fdiv_eq_ediv_of_nonneg a (Int.natCast_nonneg n), Rat.floor_intCast_div_natCast]
  obtain ⟨n, rfl | rfl⟩ := Int.eq_nat_or_neg b
  · rw [hnat, Int.cast_natCast]
  · rw [← Int.neg_fdiv_neg, Int.neg_neg, hnat, Int.cast_neg, Int.cast_neg, Int.cast_natCast,
      neg_div, div_neg]

namespace Line

/-! ## The two counts -/

variable {m : Line}

theorem margin_append_of_isMargin (hm : ∀ c ∈ m, isMargin c = true) (l : Line) :
    margin (m ++ l) = m ++ margin l :=
  List.takeWhile_append_of_pos hm

theorem marginTabs_append (hm : ∀ c ∈ m, isMargin c = true) (l : Line) :
    marginTabs (m ++ l) = m.count '\t' + l.marginTabs := by
  rw [marginTabs, margin_append_of_isMargin hm, List.count_append, marginTabs]

theorem marginSpaces_append (hm : ∀ c ∈ m, isMargin c = true) (l : Line) :
    marginSpaces (m ++ l) = m.count ' ' + l.marginSpaces := by
  rw [marginSpaces, margin_append_of_isMargin hm, List.count_append, marginSpaces]

theorem margin_of_isFlush {l : Line} (h : IsFlush l) : margin l = [] := by
  rw [← List.nil_append l, margin_append h]
  rfl

theorem margin_tab_cons (l : Line) : margin ('\t' :: l) = '\t' :: margin l :=
  margin_append_of_isMargin (List.forall_mem_singleton.mpr rfl) l

/-! ## Depths of the same counts -/

variable {unit : Int}

theorem depth_eq_of_counts {l l' : Line} (h : unit ≠ 0) (htabs : l.marginTabs = l'.marginTabs)
    (hspaces : l.marginSpaces = l'.marginSpaces) : l.depth unit = l'.depth unit := by
  rw [depth_eq h, depth_eq h, htabs, hspaces]

/-- The order of a margin does not matter, nor what stands behind it. -/
theorem depth_of_perm {rest l : Line} (h : unit ≠ 0) (hperm : m.Perm l.margin)
    (hrest : rest.IsFlush) : depth unit (m ++ rest) = l.depth unit := by
  have hm : ∀ c ∈ m, isMargin c = true := fun c hc =>
    isMargin_of_mem_margin c (hperm.mem_iff.mp hc)
  refine depth_eq_of_counts h ?_ ?_
  · rw [marginTabs_append hm, marginTabs, margin_of_isFlush hrest, hperm.count_eq, marginTabs]
    rfl
  · rw [marginSpaces_append hm, marginSpaces, margin_of_isFlush hrest, hperm.count_eq,
      marginSpaces]
    rfl

/-- A tab in front of a line is one level more. -/
theorem depth_tab_cons (h : unit ≠ 0) (l : Line) :
    depth unit ('\t' :: l) = l.depth unit + 1 := by
  rw [depth_eq h, depth_eq h, marginTabs, marginSpaces, margin_tab_cons, List.count_cons_self,
    List.count_cons_of_ne (by decide), marginTabs, marginSpaces]
  push_cast
  omega

/-- A unit of spaces behind any margin is as good as a tab there. -/
theorem depth_unit_of_spaces (hm : ∀ c ∈ m, isMargin c = true) (h : 0 < unit) (l : Line) :
    depth unit (m ++ List.replicate unit.toNat ' ' ++ l) = depth unit (m ++ '\t' :: l) := by
  have hunit : (unit.toNat : Int) = unit := Int.toNat_of_nonneg (Int.le_of_lt h)
  have hspaces : ∀ c ∈ List.replicate unit.toNat ' ', isMargin c = true :=
    isMargin_of_mem_replicate .space _
  have hdiv : ((m.count ' ' + (unit.toNat + l.marginSpaces) : Nat) : Int).fdiv unit =
      ((m.count ' ' + l.marginSpaces : Nat) : Int).fdiv unit + 1 := by
    have hsum : ((m.count ' ' + (unit.toNat + l.marginSpaces) : Nat) : Int) =
        1 * unit + (m.count ' ' + l.marginSpaces : Nat) := by
      push_cast
      omega
    rw [hsum, Int.mul_add_fdiv_right _ _ h.ne']
  rw [List.append_assoc, depth_eq h.ne', depth_eq h.ne', marginTabs_append hm,
    marginTabs_append hspaces, marginSpaces_append hm, marginSpaces_append hspaces,
    List.count_replicate_self, List.count_replicate, hdiv, marginTabs_append hm,
    marginSpaces_append hm, marginTabs, marginTabs, marginSpaces, marginSpaces, margin_tab_cons,
    List.count_cons_self, List.count_cons_of_ne (by decide)]
  simp only [show (' ' == '\t') = false from rfl, Bool.false_eq_true, if_false]
  push_cast
  omega

end Line

/-- The depth of a line by the tabs and the spaces of its margin, for any unit but zero. The order
of the margin does not matter, nor does what stands behind it. For a positive unit, the depth is at
most the length of the margin, a tab of the margin can be replaced by a unit of spaces, and either
of the two in front of the line is one level more. -/
theorem depth_of_margin {unit : Int} (h : unit ≠ 0) (l : Line) :
    l.depth unit = l.marginTabs + ⌊(l.marginSpaces : ℚ) / unit⌋
      ∧ (∀ m rest : Line, m.Perm l.margin → rest.IsFlush →
          Line.depth unit (m ++ rest) = l.depth unit)
      ∧ (0 < unit →
          0 ≤ l.depth unit
            ∧ l.depth unit ≤ l.marginTabs + l.marginSpaces
            ∧ (∀ before after : Line, (∀ c ∈ before, isMargin c = true) →
                l = before ++ '\t' :: after →
                Line.depth unit (before ++ List.replicate unit.toNat ' ' ++ after) =
                  l.depth unit)
            ∧ Line.depth unit ('\t' :: l) = l.depth unit + 1
            ∧ Line.depth unit (List.replicate unit.toNat ' ' ++ l) = l.depth unit + 1) := by
  refine ⟨?_, fun m rest hperm hrest => Line.depth_of_perm h hperm hrest, fun hpos => ?_⟩
  · rw [Line.depth_eq h, fdiv_eq_floor, Int.cast_natCast]
  · obtain ⟨hnonneg, hle⟩ := Line.depth_bounds hpos l
    refine ⟨hnonneg, ?_, ?_, Line.depth_tab_cons h l, ?_⟩
    · rw [← Line.marginTabs_add_marginSpaces] at hle
      exact_mod_cast hle
    · rintro before after hbefore rfl
      exact Line.depth_unit_of_spaces hbefore hpos after
    · have hspaces := Line.depth_unit_of_spaces (m := []) (fun c hc => nomatch hc) hpos l
      rw [List.nil_append] at hspaces
      exact hspaces.trans (Line.depth_tab_cons h l)

/-- A margin of both kinds, in another order and with its first tab as spaces, and for a unit below
zero, where two spaces are a level less. -/
theorem depth_of_margin_mixed :
    let l : Line := "\t  \tx".toList
    (4 : Int) ≠ 0
      ∧ Line.depth 4 " \t \ty".toList = l.depth 4
      ∧ Line.depth 4 "      \tx".toList = l.depth 4
      ∧ (-4 : Int) ≠ 0
      ∧ l.depth (-4) = 2 + ⌊(2 : ℚ) / (-4 : Int)⌋ := by
  intro l
  have hfour : (4 : Int) ≠ 0 := by decide
  have hneg : (-4 : Int) ≠ 0 := by decide
  obtain ⟨-, hperm, hpos⟩ := depth_of_margin hfour l
  obtain ⟨-, -, htab, -⟩ := hpos (by decide)
  refine ⟨hfour, hperm " \t \t".toList "y".toList ?_ ?_, ?_, hneg, ?_⟩
  · decide
  · decide
  · exact htab [] "  \tx".toList (fun c hc => nomatch hc) rfl
  · exact (depth_of_margin hneg l).1

end Nesting
