import Mathlib.Algebra.GroupWithZero.Nat
import Mathlib.Data.List.Nodup
import Nesting.Proofs.MostUsed

/-!
# The counts of the steps add up

The counts are a map from steps to numbers: no step has two of them (`Tally.Complete.distinct`), and
together they number the lines that were counted (`Tally.Complete.total`). The second rests on what
a repeated lead finds. A count that is new is one use, whatever was to be added to it; were a lead
that repeats the one before to find no step, or one without a count, it would get lost or be taken
for a use. `Tally.Sound` says that it finds both, so every indented line that is not passed over
adds one to one count (`Tally.Sound.exists_counts_addLead`).
-/

namespace Nesting

/-- How many lines a count stands for. -/
def StepCount.lines (e : StepCount) : Nat :=
  e.uses + e.repeats

/-! ## Counting a step -/

section

variable {uses repeats : Nat} {step : Run} {counts : List StepCount}

theorem countStep_of_not_mem (h : step ∉ counts.map (·.step)) :
    countStep uses repeats step counts = counts ++ [⟨step, 1, 0⟩] := by
  induction counts with
  | nil => rfl
  | cons e rest ih =>
      obtain ⟨he, hrest⟩ := not_or.mp (mt List.mem_cons.mpr h)
      rw [countStep, if_neg (Ne.symm he), ih hrest]
      rfl

/-- A step that has a count is added to there, and no other count changes. -/
theorem countStep_of_mem (hdistinct : (counts.map (·.step)).Nodup)
    (h : step ∈ counts.map (·.step)) :
    countStep uses repeats step counts = counts.map fun e =>
      if e.step = step then { e with uses := e.uses + uses, repeats := e.repeats + repeats }
      else e := by
  induction counts with
  | nil => cases h
  | cons e rest ih =>
      obtain ⟨hnot, hrest⟩ := List.nodup_cons.mp hdistinct
      rw [countStep, List.map_cons]
      by_cases he : e.step = step
      · have hother : ∀ e' ∈ rest, e'.step ≠ step := by
          intro e' he' heq
          exact hnot (List.mem_map.mpr ⟨e', he', heq.trans he.symm⟩)
        rw [if_pos he, if_pos he]
        congr 1
        conv_lhs => rw [← List.map_id rest]
        exact List.map_congr_left fun e' he' => (if_neg (hother e' he')).symm
      · rw [if_neg he, if_neg he, ih hrest ((List.mem_cons.mp h).resolve_left (Ne.symm he))]

theorem map_step_countStep_of_mem (hdistinct : (counts.map (·.step)).Nodup)
    (h : step ∈ counts.map (·.step)) :
    (countStep uses repeats step counts).map (·.step) = counts.map (·.step) := by
  rw [countStep_of_mem hdistinct h, List.map_map]
  refine List.map_congr_left fun e _ => ?_
  rw [Function.comp_apply]
  split <;> rfl

theorem nodup_countStep (h : (counts.map (·.step)).Nodup) :
    ((countStep uses repeats step counts).map (·.step)).Nodup := by
  by_cases hmem : step ∈ counts.map (·.step)
  · rw [map_step_countStep_of_mem h hmem]
    exact h
  · rw [countStep_of_not_mem hmem, List.map_append, List.map_singleton, ← List.concat_eq_append]
    exact h.concat hmem

/-- A step that is used once, or repeated once, adds one line. -/
theorem sum_lines_countStep (h : uses + repeats = 1) :
    ((countStep uses repeats step counts).map (·.lines)).sum =
      (counts.map (·.lines)).sum + 1 := by
  induction counts with
  | nil => rfl
  | cons e rest ih =>
      rw [countStep]
      split
      · simp only [List.map_cons, List.sum_cons, StepCount.lines]
        omega
      · rw [List.map_cons, List.sum_cons, ih, List.map_cons, List.sum_cons]
        omega

end

/-! ## Counting a line -/

/-- Whether a line is counted: it is indented, and not passed over as a single space. -/
def Line.IsCounted (skipSingles : Bool) (l : Line) : Prop :=
  ¬l.IsFlush ∧ ¬(skipSingles = true ∧ l.IsSingle)

instance (skipSingles : Bool) (l : Line) : Decidable (l.IsCounted skipSingles) :=
  inferInstanceAs (Decidable (_ ∧ _))

variable {skipSingles : Bool}

theorem Line.isCounted_iff {l : Line} :
    l.IsCounted skipSingles ↔ ∃ r, l.CountsAs skipSingles r := by
  rw [IsCounted, ← lead_eq_none_iff, ← lead_eq_single_iff]
  cases hlead : l.lead with
  | none => simp [CountsAs, hlead]
  | some r => simp [CountsAs, hlead]

namespace Tally

variable {t : Tally} {lines : List Line} {l : Line} {r : Run}

/-- Whether the counts are a map of steps in use that accounts for each of the lines once. -/
structure Complete (skipSingles : Bool) (lines : List Line) (t : Tally) : Prop where
  distinct : (t.counts.map (·.step)).Nodup
  used : ∀ e ∈ t.counts, 1 ≤ e.uses
  total : (t.counts.map (·.lines)).sum = lines.countP (·.IsCounted skipSingles)

theorem complete_empty : Complete skipSingles [] {} where
  distinct := List.nodup_nil
  used := by
    intro e he
    cases he
  total := rfl

/-- A line that is not counted leaves the counts complete if it leaves them alone. -/
theorem Complete.of_not_isCounted {t' : Tally} (h : t.Complete skipSingles lines)
    (hcounts : t'.counts = t.counts) (hl : ¬l.IsCounted skipSingles) :
    t'.Complete skipSingles (lines ++ [l]) where
  distinct := hcounts ▸ h.distinct
  used := hcounts ▸ h.used
  total := by
    rw [hcounts, h.total, List.countP_append, List.countP_singleton, if_neg (by simpa using hl)]
    rfl

theorem Complete.addLead (h : t.Complete skipSingles lines) (hsound : t.Sound)
    (hcounts : l.CountsAs skipSingles r) : (t.addLead r).Complete skipSingles (lines ++ [l]) := by
  obtain ⟨uses, repeats, step, hone, heq⟩ :=
    hsound.exists_counts_addLead (Line.length_pos_of_lead hcounts.1)
  have hl : l.IsCounted skipSingles := Line.isCounted_iff.mpr ⟨r, hcounts⟩
  refine ⟨?_, ?_, ?_⟩
  · rw [heq]
    exact nodup_countStep h.distinct
  · rw [heq]
    refine forall_countStep le_rfl (fun e he => ?_) h.used
    exact he.trans (Nat.le_add_right _ _)
  · rw [heq, sum_lines_countStep hone, h.total, List.countP_append, List.countP_singleton,
      if_pos (by simpa using hl)]

theorem Complete.add (h : t.Complete skipSingles lines) (hsound : t.Sound) (l : Line) :
    (t.add skipSingles l).Complete skipSingles (lines ++ [l]) := by
  obtain ⟨heq, hskip⟩ | ⟨-, hlead, heq⟩ | ⟨r, hlead, hnot, heq⟩ := add_cases skipSingles t l
  · rw [heq]
    refine h.of_not_isCounted rfl ?_
    rw [Line.isCounted_iff]
    rintro ⟨r, hr, hnot⟩
    rcases hskip with rfl | ⟨hskip, hsingle⟩
    · cases hr
    · exact hnot ⟨hskip, Option.some.inj (hr.symm.trans hsingle)⟩
  · rw [heq]
    refine h.of_not_isCounted rfl ?_
    exact fun hl => hl.1 (Line.lead_eq_none_iff.mp hlead)
  · rw [heq]
    exact h.addLead hsound ⟨hlead, hnot⟩

theorem complete_ofLines (skipSingles : Bool) (lines : List Line) :
    (ofLines skipSingles lines).Complete skipSingles lines := by
  induction lines using List.reverseRecOn with
  | nil => exact complete_empty
  | append_singleton lines l ih =>
      rw [ofLines_concat]
      exact ih.add (sound_ofLines skipSingles lines) l

/-- A line that repeats the lead before it finds the step last used, of its kind and with a count,
and adds a repeat there. -/
theorem exists_add_of_repeat (hsound : t.Sound) (hdistinct : (t.counts.map (·.step)).Nodup)
    (hcounts : l.CountsAs skipSingles r) (heq : r.length = t.before r.kind) :
    ∃ s, t.step = some s ∧ s.kind = r.kind ∧ s ∈ t.counts.map (·.step)
      ∧ (t.add skipSingles l).step = some s
      ∧ (t.add skipSingles l).counts = t.counts.map fun e =>
          if e.step = s then { e with repeats := e.repeats + 1 } else e := by
  obtain ⟨hlead, hnot⟩ := hcounts
  obtain ⟨s, hstep, hkind⟩ := hsound.exists_step (Line.length_pos_of_lead hlead) heq
  have hmem : s ∈ t.counts.map (·.step) := hsound.counted s hstep
  have hadd : t.add skipSingles l = t.addLead r := by
    rw [add_of_lead_eq_some hlead, if_neg]
    rw [Bool.and_eq_true, beq_iff_eq]
    exact hnot
  refine ⟨s, hstep, hkind, hmem, ?_, ?_⟩
  · rw [hadd, addLead_of_eq heq]
    exact hstep
  · rw [hadd, addLead_of_eq heq, hstep]
    exact countStep_of_mem hdistinct hmem

end Tally

/-- The state of the count behind the first lines of a text, however many, with single spaces passed
over or not. If the next line repeats the lead before it, the step last used is of its kind and has
a count, and all that happens is that this count has one repeat more. No step has two counts. Every
step is at least one character wide and no wider than the lead of its kind of some line that was
counted, and was used at least once. Uses and repeats together number the lines that were
counted. -/
theorem ofLines_counts (skipSingles : Bool) (text : String) (n : Nat) :
    let seen := (linesOf text).take n
    let t := Tally.ofLines skipSingles seen
    (∀ l ∈ (linesOf text)[n]?, ∀ r, l.CountsAs skipSingles r → r.length = t.before r.kind →
        ∃ s, t.step = some s ∧ s.kind = r.kind ∧ s ∈ t.counts.map (·.step)
          ∧ (t.add skipSingles l).step = some s
          ∧ (t.add skipSingles l).counts = t.counts.map fun e =>
              if e.step = s then { e with repeats := e.repeats + 1 } else e)
      ∧ (t.counts.map (·.step)).Nodup
      ∧ (∀ e ∈ t.counts, e.step.Fits skipSingles seen ∧ 1 ≤ e.uses)
      ∧ (t.counts.map fun e => e.uses + e.repeats).sum =
          seen.countP fun l => ¬l.IsFlush ∧ ¬(skipSingles = true ∧ l.IsSingle) := by
  intro seen t
  have hsound : t.Sound := Tally.sound_ofLines skipSingles seen
  have hfits : t.Fits skipSingles seen := Tally.fits_ofLines skipSingles seen
  have hcomplete : t.Complete skipSingles seen := Tally.complete_ofLines skipSingles seen
  refine ⟨fun l _ r hcounts heq => ?_, hcomplete.distinct, fun e he => ?_, hcomplete.total⟩
  · exact Tally.exists_add_of_repeat hsound hcomplete.distinct hcounts heq
  · exact ⟨hfits.counts e he, hcomplete.used e he⟩

/-- Two leads of two and one more behind an empty line, which repeats them. -/
theorem ofLines_counts_repeat :
    let lines : List Line := [[' ', ' ', 'a'], [], [' ', ' ', 'b']]
    let t := Tally.ofLines true ((linesOf (textOf lines)).take 2)
    let l : Line := [' ', ' ', 'b']
    l ∈ (linesOf (textOf lines))[2]?
      ∧ l.CountsAs true ⟨.space, 2⟩
      ∧ 2 = t.before .space
      ∧ ∃ s, t.step = some s ∧ s ∈ t.counts.map (·.step) ∧ (t.add true l).step = some s := by
  intro lines t l
  have hlines : linesOf (textOf lines) = lines := linesOf_textOf (by decide) (by decide)
  have hnext : l ∈ (linesOf (textOf lines))[2]? := by
    rw [hlines]
    rfl
  have hcounts : l.CountsAs true ⟨.space, 2⟩ := by
    refine ⟨rfl, fun h => ?_⟩
    cases h.2
  have hbefore : 2 = t.before .space := by
    show 2 = (Tally.ofLines true ((linesOf (textOf lines)).take 2)).before .space
    rw [hlines]
    decide
  obtain ⟨s, hstep, -, hmem, hadd, -⟩ :=
    (ofLines_counts true (textOf lines) 2).1 l hnext _ hcounts hbefore
  exact ⟨hnext, hcounts, hbefore, s, hstep, hmem, hadd⟩

end Nesting
