import Mathlib.Data.Prod.Lex
import Nesting.Proofs.Counting
import Nesting.Proofs.Steps

/-!
# The step that is used most

The selection goes over the counts once and changes its mind only for a count that beats the one it
has, so it ends with the first of the counts that are ranked highest, by uses and then by repeats
(`StepCount.IsFirstHighest`, `Tally.isFirstHighest_of_mostUsed`).

Which counts it goes over is told by what the lines start with. A line that starts with a tab or
with two spaces (`Line.IsWide`) is counted whether single spaces are passed over or not, so where
there is one, the first count decides, and a line that starts with exactly one space
(`Line.IsSingle`) is invisible to it. Where all indented lines are such, the first count is empty,
and no step of the second can be wider than their leads (`Run.Fits`): it is a single space.
-/

namespace Nesting

/-! ## What a line starts with -/

namespace Line

/-- Whether a line starts with a tab or with at least two spaces. -/
def IsWide (l : Line) : Prop :=
  ['\t'] <+: l ∨ [' ', ' '] <+: l

/-- Whether a line starts with exactly one space. -/
def IsSingle (l : Line) : Prop :=
  [' '] <+: l ∧ ¬[' ', ' '] <+: l

instance (l : Line) : Decidable (IsWide l) :=
  decidable_of_iff (['\t'].isPrefixOf l || [' ', ' '].isPrefixOf l) (by simp [IsWide])

instance (l : Line) : Decidable (IsSingle l) :=
  decidable_of_iff ([' '].isPrefixOf l = true ∧ ¬[' ', ' '].isPrefixOf l = true)
    (by simp only [IsSingle, List.isPrefixOf_iff_prefix])

variable {l : Line}

theorem lead_eq_single_iff : l.lead = some ⟨.space, 1⟩ ↔ l.IsSingle := by
  constructor
  · intro h
    obtain ⟨rest, rfl⟩ := exists_of_lead_eq_some h
    refine ⟨⟨rest, rfl⟩, ?_⟩
    rintro ⟨rest', hrest⟩
    obtain ⟨-, rfl⟩ := List.cons.inj hrest
    cases h
  · rintro ⟨⟨rest, rfl⟩, hnot⟩
    cases rest with
    | nil => rfl
    | cons c rest =>
        have hc : c ≠ ' ' := by
          rintro rfl
          exact hnot ⟨rest, rfl⟩
        simp [lead, hc]

theorem isWide_iff : l.IsWide ↔ ∃ r, l.lead = some r ∧ r ≠ ⟨.space, 1⟩ := by
  constructor
  · rintro (⟨rest, rfl⟩ | ⟨rest, rfl⟩)
    · refine ⟨_, lead_char_cons .tab rest, fun h => ?_⟩
      cases congrArg Run.kind h
    · refine ⟨_, lead_char_cons .space (' ' :: rest), fun h => ?_⟩
      have hlength := congrArg Run.length h
      simp [Margin.char] at hlength
  · rintro ⟨⟨k, n⟩, hlead, hne⟩
    have hpos := length_pos_of_lead hlead
    obtain ⟨rest, rfl⟩ := exists_of_lead_eq_some hlead
    dsimp only at hpos ⊢
    cases k with
    | tab =>
        obtain ⟨m, rfl⟩ := Nat.exists_eq_succ_of_ne_zero hpos.ne'
        exact Or.inl ⟨_, rfl⟩
    | space =>
        obtain ⟨m, rfl⟩ : ∃ m, n = m + 2 := by
          refine ⟨n - 2, ?_⟩
          have hone : n ≠ 1 := by
            rintro rfl
            exact hne rfl
          omega
        exact Or.inr ⟨_, rfl⟩

theorem IsSingle.lead (h : l.IsSingle) : l.lead = some ⟨.space, 1⟩ :=
  lead_eq_single_iff.mpr h

theorem IsWide.not_isSingle (h : l.IsWide) : ¬l.IsSingle := by
  obtain ⟨r, hlead, hne⟩ := isWide_iff.mp h
  intro hsingle
  exact hne (Option.some.inj (hlead.symm.trans hsingle.lead))

end Line

/-! ## The first of the highest -/

namespace StepCount

/-- What counts are ranked by: the uses first, then the repeats. -/
def rank (e : StepCount) : Nat ×ₗ Nat :=
  toLex (e.uses, e.repeats)

theorem beats_iff {a b : StepCount} : a.beats b = true ↔ b.rank < a.rank := by
  rw [beats, rank, rank, Prod.Lex.toLex_lt_toLex, Bool.or_eq_true, Bool.and_eq_true, beq_iff_eq,
    decide_eq_true_eq, decide_eq_true_eq, eq_comm (a := a.uses)]

/-- Whether a count is the first of those that are ranked highest. -/
def IsFirstHighest (e : StepCount) (counts : List StepCount) : Prop :=
  ∃ before after, counts = before ++ e :: after
    ∧ (∀ e' ∈ before, e'.rank < e.rank) ∧ ∀ e' ∈ after, e'.rank ≤ e.rank

theorem IsFirstHighest.rank_le {e e' : StepCount} {counts : List StepCount}
    (h : e.IsFirstHighest counts) (he' : e' ∈ counts) : e'.rank ≤ e.rank := by
  obtain ⟨before, after, rfl, hbefore, hafter⟩ := h
  rcases List.mem_append.mp he' with he' | he'
  · exact (hbefore e' he').le
  · rcases List.mem_cons.mp he' with rfl | he'
    · exact le_rfl
    · exact hafter e' he'

end StepCount

namespace Tally

theorem mostUsed_concat (counts : List StepCount) (e : StepCount) :
    mostUsed (counts ++ [e]) = better (mostUsed counts) e := by
  rw [mostUsed, List.foldl_concat]
  rfl

/-- The count that is selected is the first of the highest: of two as high as each other the first
stays. -/
theorem isFirstHighest_of_mostUsed {counts : List StepCount} {e : StepCount}
    (h : mostUsed counts = some e) : e.IsFirstHighest counts := by
  induction counts using List.reverseRecOn generalizing e with
  | nil => cases h
  | append_singleton counts last ih =>
      rw [mostUsed_concat] at h
      cases hbest : mostUsed counts with
      | none =>
          rw [hbest] at h
          obtain rfl := Option.some.inj h
          obtain rfl := mostUsed_eq_none_iff.mp hbest
          exact ⟨[], [], rfl, by simp, by simp⟩
      | some best =>
          have hfirst := ih hbest
          rw [hbest, better] at h
          split at h
          · next hbeats =>
              obtain rfl := Option.some.inj h
              refine ⟨counts, [], rfl, fun e' he' => ?_, by simp⟩
              exact (hfirst.rank_le he').trans_lt (StepCount.beats_iff.mp hbeats)
          · next hnot =>
              obtain rfl := Option.some.inj h
              obtain ⟨before, after, rfl, hbefore, hafter⟩ := hfirst
              refine ⟨before, after ++ [last], by simp, hbefore, ?_⟩
              rw [List.forall_mem_append, List.forall_mem_singleton]
              exact ⟨hafter, not_lt.mp (mt StepCount.beats_iff.mpr hnot)⟩

/-! ## Lines that are passed over -/

/-- A count that passes over single spaces does not see the lines that start with one. -/
theorem ofLines_filter_not_isSingle (lines : List Line) :
    ofLines true (lines.filter fun l => ¬l.IsSingle) = ofLines true lines := by
  refine ofLines_filter (fun t l hl => ?_) lines
  rw [not_not] at hl
  rw [add_of_lead_eq_some hl.lead, if_pos (by decide)]

theorem counts_ofLines_ne_nil_of_isWide {lines : List Line} (h : ∃ l ∈ lines, l.IsWide) :
    (ofLines true lines).counts ≠ [] := by
  obtain ⟨l, hl, hwide⟩ := h
  obtain ⟨r, hlead, hne⟩ := Line.isWide_iff.mp hwide
  rw [ne_eq, counts_ofLines_eq_nil_iff]
  intro hall
  exact hne (hall l hl r hlead).2

end Tally

namespace Indent

variable {lines : List Line}

theorem deciding_of_isWide (h : ∃ l ∈ lines, l.IsWide) :
    deciding lines = (Tally.ofLines true lines).counts := by
  rw [deciding_eq, if_neg (Tally.counts_ofLines_ne_nil_of_isWide h)]

/-- Where a line starts with a tab or two spaces, the first of the highest counts without single
spaces is the step. -/
theorem exists_isFirstHighest (h : ∃ l ∈ lines, l.IsWide) :
    ∃ e : StepCount, detect lines = ofRun e.step
      ∧ e.IsFirstHighest (Tally.ofLines true lines).counts := by
  rw [detect, deciding_of_isWide h]
  cases hbest : Tally.mostUsed (Tally.ofLines true lines).counts with
  | none =>
      exact absurd (Tally.mostUsed_eq_none_iff.mp hbest) (Tally.counts_ofLines_ne_nil_of_isWide h)
  | some e => exact ⟨e, rfl, Tally.isFirstHighest_of_mostUsed hbest⟩

/-- Where a line starts with a tab or two spaces, those that start with exactly one space have no
part in the step. -/
theorem detect_eq_of_filter_eq {lines' : List Line} (h : ∃ l ∈ lines, l.IsWide)
    (heq : (lines'.filter fun l => ¬l.IsSingle) = lines.filter fun l => ¬l.IsSingle) :
    detect lines' = detect lines := by
  have h' : ∃ l ∈ lines', l.IsWide := by
    obtain ⟨l, hl, hwide⟩ := h
    have hkept : l ∈ lines'.filter fun l => ¬l.IsSingle := by
      rw [heq]
      exact List.mem_filter.mpr ⟨hl, decide_eq_true hwide.not_isSingle⟩
    exact ⟨l, List.mem_of_mem_filter hkept, hwide⟩
  rw [detect, detect, deciding_of_isWide h, deciding_of_isWide h',
    ← Tally.ofLines_filter_not_isSingle lines', heq, Tally.ofLines_filter_not_isSingle]

/-- Where all indented lines start with exactly one space, nothing is counted without them, and the
step is that space. -/
theorem detect_of_isSingle (h : ∃ l ∈ lines, ¬l.IsFlush)
    (hsingle : ∀ l ∈ lines, ¬l.IsFlush → l.IsSingle) :
    (Tally.ofLines true lines).counts = [] ∧ detect lines = ⟨1, some .space⟩ := by
  have hlead : ∀ l ∈ lines, ∀ r, l.lead = some r → r = ⟨.space, 1⟩ := by
    intro l hl r hr
    have hone := (hsingle l hl (Line.not_isFlush_of_lead hr)).lead
    exact Option.some.inj (hr.symm.trans hone)
  refine ⟨?_, ?_⟩
  · rw [Tally.counts_ofLines_eq_nil_iff]
    exact fun l hl r hr => ⟨rfl, hlead l hl r hr⟩
  · obtain ⟨⟨k, n⟩, hdetect, hpos, l, hl, r, ⟨hr, -⟩, hkind, hle⟩ := exists_of_detect h
    obtain rfl := hlead l hl r hr
    dsimp only at hpos hkind hle
    obtain rfl := hkind
    obtain rfl : n = 1 := by omega
    exact hdetect

end Indent

/-- The indentation that is detected in a text. It is none just when no line starts with a space or
a tab, otherwise a positive amount of one of the two, and its unit is positive in any case. Where
some line starts with a tab or two spaces, it is the step of the first of the highest counts of the
pass without single spaces, and the lines that start with exactly one space can be left out, or put
in anywhere. Where all indented lines are such, that pass counts nothing and the step is a space. -/
theorem detect_mostUsed (text : String) :
    let lines := linesOf text
    let indent := Indent.detect lines
    let counts := (Tally.ofLines true lines).counts
    (indent = ⟨0, none⟩ ↔ ∀ l ∈ lines, l.IsFlush)
      ∧ 1 ≤ indent.unit
      ∧ ((∃ l ∈ lines, ¬l.IsFlush) → 1 ≤ indent.amount ∧ ∃ k, indent.kind = some k)
      ∧ ((∃ l ∈ lines, l.IsWide) →
          (∃ e : StepCount, indent = .ofRun e.step ∧ e.IsFirstHighest counts)
            ∧ Indent.detect (linesOf (textOf (lines.filter fun l => ¬l.IsSingle))) = indent
            ∧ ∀ text' : String,
                ((linesOf text').filter fun l => ¬l.IsSingle) =
                    (lines.filter fun l => ¬l.IsSingle) →
                  Indent.detect (linesOf text') = indent)
      ∧ ((∃ l ∈ lines, ¬l.IsFlush) → (∀ l ∈ lines, ¬l.IsFlush → l.IsSingle) →
          counts = [] ∧ indent = ⟨1, some .space⟩) := by
  intro lines indent counts
  refine ⟨?_, Indent.unit_pos lines, ?_, ?_, ?_⟩
  · have hnone := Indent.detect_eq_none_iff lines
    simp only [Line.lead_eq_none_iff] at hnone
    exact hnone
  · intro hindented
    obtain ⟨s, hdetect, hpos, -⟩ := Indent.exists_of_detect hindented
    refine ⟨?_, s.kind, congrArg Indent.kind hdetect⟩
    have hamount : indent.amount = s.length := congrArg Indent.amount hdetect
    omega
  · intro hwide
    refine ⟨Indent.exists_isFirstHighest hwide, ?_, ?_⟩
    · have hnewline : ∀ l ∈ lines.filter fun l => ¬l.IsSingle, '\n' ∉ l := by
        intro l hl
        exact newline_not_mem_linesOf text l (List.mem_of_mem_filter hl)
      rw [Indent.detect_linesOf_textOf hnewline]
      refine Indent.detect_eq_of_filter_eq hwide ?_
      rw [List.filter_filter]
      simp only [Bool.and_self]
    · intro text' heq
      exact Indent.detect_eq_of_filter_eq hwide heq
  · intro hindented hsingle
    exact Indent.detect_of_isSingle hindented hsingle

/-- Two steps as often used as each other, with a single space between them that goes unseen. -/
theorem detect_mostUsed_tie :
    let lines : List Line := [[' ', ' ', 'a'], [' ', '*'], ['\t', 'b']]
    (∃ l ∈ linesOf (textOf lines), l.IsWide)
      ∧ Indent.detect (linesOf (textOf [[' ', ' ', 'a'], ['\t', 'b']])) =
          Indent.detect (linesOf (textOf lines))
      ∧ Indent.detect (linesOf (textOf lines)) = ⟨2, some .space⟩ := by
  intro lines
  have hlines : linesOf (textOf lines) = lines := linesOf_textOf (by decide) (by decide)
  have hkept : linesOf (textOf [[' ', ' ', 'a'], ['\t', 'b']]) =
      [[' ', ' ', 'a'], ['\t', 'b']] := linesOf_textOf (by decide) (by decide)
  have hwide : ∃ l ∈ linesOf (textOf lines), l.IsWide := by
    rw [hlines]
    decide
  obtain ⟨-, -, -, hfirst, -⟩ := detect_mostUsed (textOf lines)
  obtain ⟨-, -, hsame⟩ := hfirst hwide
  refine ⟨hwide, hsame _ ?_, ?_⟩
  · rw [hlines, hkept]
    decide
  · rw [hlines]
    decide

end Nesting
