import Nesting.Proofs.Detection

/-!
# How wide a step is

A step is the difference between two leads of one kind, or a lead by itself, so it is no wider than
the wider one of the two. Over a whole count this says that every step comes from the text
(`Run.Fits`): it is at least one character wide, and some line that was counted has a lead of the
same kind which is no shorter. The invariant that carries it (`Tally.Fits`) says the same of the
step that a repeated lead is counted for, and where the last lead was read; nothing else in the
state of the count can widen a step.

So the indentation that is detected fits the text (`Indent.exists_of_detect`), whether single spaces
were passed over or not.
-/

namespace Nesting

/-- Whether a line is counted with some lead: it has the lead, and is not passed over for it. -/
def Line.CountsAs (skipSingles : Bool) (l : Line) (r : Run) : Prop :=
  l.lead = some r ∧ ¬(skipSingles = true ∧ r = ⟨.space, 1⟩)

/-- Whether a step is at least one character wide, and no wider than the lead of some line that is
counted and has a lead of its kind. -/
def Run.Fits (skipSingles : Bool) (lines : List Line) (s : Run) : Prop :=
  0 < s.length ∧
    ∃ l ∈ lines, ∃ r, l.CountsAs skipSingles r ∧ r.kind = s.kind ∧ s.length ≤ r.length

variable {skipSingles : Bool}

theorem Run.Fits.mono {lines lines' : List Line} {s : Run} (h : s.Fits skipSingles lines)
    (hsub : lines ⊆ lines') : s.Fits skipSingles lines' := by
  obtain ⟨hpos, l, hl, hcounts⟩ := h
  exact ⟨hpos, l, hsub hl, hcounts⟩

/-- A step that fits a count without single spaces fits one with them. -/
theorem Run.Fits.of_skipSingles {lines : List Line} {s : Run} (h : s.Fits skipSingles lines) :
    s.Fits false lines := by
  obtain ⟨hpos, l, hl, r, ⟨hlead, -⟩, hkind, hle⟩ := h
  exact ⟨hpos, l, hl, r, ⟨hlead, fun hskip => nomatch hskip.1⟩, hkind, hle⟩

namespace Tally

/-- Whether all that a count keeps comes from the lines that it has counted. -/
structure Fits (skipSingles : Bool) (lines : List Line) (t : Tally) : Prop where
  lead : ∀ k, t.kind = some k → ∃ l ∈ lines, l.CountsAs skipSingles ⟨k, t.length⟩
  step : ∀ s, t.step = some s → s.Fits skipSingles lines
  counts : ∀ e ∈ t.counts, e.step.Fits skipSingles lines

theorem fits_empty : Fits skipSingles [] {} where
  lead := by
    intro k hk
    cases hk
  step := by
    intro s hs
    cases hs
  counts := by
    intro e he
    cases he

variable {lines : List Line} {t : Tally} {l : Line} {r : Run}

theorem Fits.mono {lines' : List Line} (h : t.Fits skipSingles lines) (hsub : lines ⊆ lines') :
    t.Fits skipSingles lines' where
  lead := by
    intro k hk
    obtain ⟨l, hl, hcounts⟩ := h.lead k hk
    exact ⟨l, hsub hl, hcounts⟩
  step := fun s hs => (h.step s hs).mono hsub
  counts := fun e he => (h.counts e he).mono hsub

/-- A step to another lead fits: the wider one of the two leads that it lies between was read from a
line of its kind. -/
theorem Fits.stepTo (h : t.Fits skipSingles lines) (hl : l ∈ lines)
    (hcounts : l.CountsAs skipSingles r) (hne : r.length ≠ t.before r.kind) :
    (t.stepTo r).Fits skipSingles lines := by
  refine ⟨?_, ?_⟩
  · rw [Tally.stepTo]
    dsimp only
    omega
  · by_cases hle : t.before r.kind ≤ r.length
    · refine ⟨l, hl, r, hcounts, rfl, ?_⟩
      rw [Tally.stepTo]
      dsimp only
      omega
    · have hkind : t.kind = some r.kind := by
        by_contra hne'
        rw [before, if_neg hne'] at hle
        omega
      have hbefore : t.before r.kind = t.length := if_pos hkind
      obtain ⟨l', hl', hcounts'⟩ := h.lead r.kind hkind
      refine ⟨l', hl', ⟨r.kind, t.length⟩, hcounts', rfl, ?_⟩
      rw [Tally.stepTo, hbefore]
      dsimp only
      omega

theorem Fits.addLead (h : t.Fits skipSingles lines) (hl : l ∈ lines)
    (hcounts : l.CountsAs skipSingles r) : (t.addLead r).Fits skipSingles lines := by
  have hlead : ∀ k, some r.kind = some k → ∃ l ∈ lines, l.CountsAs skipSingles ⟨k, r.length⟩ := by
    intro k hk
    obtain rfl := Option.some.inj hk
    exact ⟨l, hl, hcounts⟩
  by_cases heq : r.length = t.before r.kind
  · rw [addLead_of_eq heq]
    refine ⟨hlead, h.step, ?_⟩
    cases hstep : t.step with
    | none => exact h.counts
    | some s => exact forall_step_countStep (h.step s hstep) h.counts
  · have hfits := h.stepTo hl hcounts heq
    rw [addLead_of_ne heq]
    refine ⟨hlead, fun s hs => ?_, forall_step_countStep hfits h.counts⟩
    obtain rfl := Option.some.inj hs
    exact hfits

theorem Fits.add (h : t.Fits skipSingles lines) (l : Line) :
    (t.add skipSingles l).Fits skipSingles (lines ++ [l]) := by
  have hmore : t.Fits skipSingles (lines ++ [l]) := h.mono (List.subset_append_left lines [l])
  obtain ⟨heq, -⟩ | ⟨-, -, heq⟩ | ⟨r, hlead, hnot, heq⟩ := add_cases skipSingles t l
  · rw [heq]
    exact hmore
  · rw [heq]
    exact ⟨fun k hk => (nomatch hk), hmore.step, hmore.counts⟩
  · rw [heq]
    exact hmore.addLead (List.mem_append_right lines (List.mem_singleton.mpr rfl)) ⟨hlead, hnot⟩

theorem fits_ofLines (skipSingles : Bool) (lines : List Line) :
    (ofLines skipSingles lines).Fits skipSingles lines := by
  induction lines using List.reverseRecOn with
  | nil => exact fits_empty
  | append_singleton lines l ih =>
      rw [ofLines_concat]
      exact ih.add l

end Tally

namespace Indent

theorem fits_of_mem_deciding {lines : List Line} {e : StepCount} (he : e ∈ deciding lines) :
    e.step.Fits false lines := by
  rw [deciding_eq] at he
  split at he
  · exact (Tally.fits_ofLines false lines).counts e he
  · exact ((Tally.fits_ofLines true lines).counts e he).of_skipSingles

/-- The indentation of a text with an indented line is a step that fits the text. -/
theorem exists_of_detect {lines : List Line} (h : ∃ l ∈ lines, ¬l.IsFlush) :
    ∃ s : Run, detect lines = ofRun s ∧ s.Fits false lines := by
  have hne : detect lines ≠ none := by
    obtain ⟨l, hl, hmargin⟩ := h
    intro hnone
    exact hmargin (Line.lead_eq_none_iff.mp ((detect_eq_none_iff lines).mp hnone l hl))
  rw [detect] at hne ⊢
  cases hbest : Tally.mostUsed (deciding lines) with
  | none =>
      rw [hbest] at hne
      exact absurd rfl hne
  | some e => exact ⟨e.step, rfl, fits_of_mem_deciding (Tally.mem_of_mostUsed hbest)⟩

end Indent

end Nesting
