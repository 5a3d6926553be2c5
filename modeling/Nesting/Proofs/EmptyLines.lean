import Nesting.Proofs.Detection

/-!
# Empty lines taken for unindented ones

The detection of the step passes over an empty line and forgets the last lead at an unindented one.
Where a text has something in its empty lines that is neither, a blank that indents nothing, they
are unindented ones (`Line.bare`), and its step is another detection (`Indent.detectBare`).

The two counts go apart at an empty line behind an indented one, and at the next unindented line
they come together again (`Tally.Bares`). A step is used or repeated in between only if an indented
line comes first, so without that (`Line.SpansEmpty`) both detect the same (`detectBare_eq_detect`).
-/

namespace Nesting

namespace Line

/-- A line, an empty one taken for an unindented one. -/
def bare (l : Line) : Line :=
  if l = [] then ['\r'] else l

theorem bare_ne_nil (l : Line) : l.bare ≠ [] := by
  rw [bare]
  split
  · exact List.cons_ne_nil _ _
  · assumption

theorem bare_of_ne_nil {l : Line} (h : l ≠ []) : l.bare = l :=
  if_neg h

theorem lead_bare (l : Line) : l.bare.lead = l.lead := by
  rw [bare]
  split
  · next hnil => rw [hnil]; rfl
  · rfl

/-- Lines that end with an indented one and so many empty ones. -/
def EndIndented (n : Nat) (lines : List Line) : Prop :=
  ∃ l : Line, l.lead ≠ none ∧ (l :: List.replicate n []) <:+ lines

/-- Empty lines between two indented ones, at least one and no others. -/
def SpansEmpty (lines : List Line) : Prop :=
  ∃ (before : List Line) (n : Nat) (l : Line),
    EndIndented (n + 1) before ∧ l.lead ≠ none ∧ (before ++ [l]) <+: lines

theorem SpansEmpty.concat {lines : List Line} (h : SpansEmpty lines) (l : Line) :
    SpansEmpty (lines ++ [l]) := by
  obtain ⟨before, n, l', hbefore, hlead, hprefix⟩ := h
  exact ⟨before, n, l', hbefore, hlead, hprefix.trans (List.prefix_append lines [l])⟩

theorem endIndented_concat {l : Line} (h : l.lead ≠ none) (lines : List Line) :
    EndIndented 0 (lines ++ [l]) :=
  ⟨l, h, List.suffix_append lines [l]⟩

theorem EndIndented.concat_nil {n : Nat} {lines : List Line} (h : EndIndented n lines) :
    EndIndented (n + 1) (lines ++ [[]]) := by
  obtain ⟨l, hlead, before, rfl⟩ := h
  refine ⟨l, hlead, before, ?_⟩
  rw [List.replicate_succ', List.append_assoc, List.cons_append]

end Line

/-- The indentation of a text when its empty lines count as unindented ones. -/
def Indent.detectBare (lines : List Line) : Indent :=
  detect (lines.map Line.bare)

namespace Tally

/-- The state behind an unindented line. -/
def forget (t : Tally) : Tally :=
  { t with length := 0, kind := none }

@[simp] theorem forget_forget (t : Tally) : t.forget.forget = t.forget := rfl

theorem add_bare_of_lead_eq_none {l : Line} (h : l.lead = none) (skipSingles : Bool) (t : Tally) :
    t.add skipSingles l.bare = t.forget :=
  add_of_lead_eq_none l.bare_ne_nil (l.lead_bare.trans h)

/-- By itself, a line counts the same steps either way. -/
theorem counts_add_bare (skipSingles : Bool) (t : Tally) (l : Line) :
    (t.add skipSingles l.bare).counts = (t.add skipSingles l).counts := by
  by_cases hl : l = []
  · rw [hl]
    rfl
  · rw [Line.bare_of_ne_nil hl]

/-- The state `t` behind some lines, and the state behind the same lines with their empty ones taken
for unindented ones: the same where there is no lead to forget, or one was just read, and otherwise
the one where it is forgotten. -/
inductive Bares (lines : List Line) (t : Tally) : Tally → Prop where
  | flush (h : t.forget = t) : Bares lines t t
  | indented (h : Line.EndIndented 0 lines) : Bares lines t t
  | apart (n : Nat) (h : Line.EndIndented (n + 1) lines) : Bares lines t t.forget

theorem Bares.counts_eq {lines : List Line} {t t' : Tally} (h : Bares lines t t') :
    t'.counts = t.counts := by
  cases h with
  | flush => rfl
  | indented => rfl
  | apart => rfl

theorem Bares.forget_eq {lines : List Line} {t t' : Tally} (h : Bares lines t t') :
    t'.forget = t.forget := by
  cases h with
  | flush => rfl
  | indented => rfl
  | apart => rfl

/-- One line further. Only an indented line can come where the two states are apart and count a step
for one of them that it does not count for the other. -/
theorem Bares.add {lines : List Line} {t t' : Tally} (h : Bares lines t t') (skipSingles : Bool)
    {l : Line} (hspan : ¬Line.SpansEmpty (lines ++ [l])) :
    Bares (lines ++ [l]) (t.add skipSingles l) (t'.add skipSingles l.bare) := by
  by_cases hl : l = []
  · subst hl
    rw [add_nil, add_bare_of_lead_eq_none rfl]
    cases h with
    | flush h =>
        rw [h]
        exact .flush h
    | indented h => exact .apart 0 h.concat_nil
    | apart n h => exact .apart (n + 1) h.concat_nil
  · cases hlead : l.lead with
    | none =>
        have hforget : t.add skipSingles l = t.forget := add_of_lead_eq_none hl hlead
        rw [add_bare_of_lead_eq_none hlead, hforget, h.forget_eq]
        exact .flush (forget_forget t)
    | some r =>
        have hindented : l.lead ≠ none := by
          rw [hlead]
          exact Option.some_ne_none r
        rw [Line.bare_of_ne_nil hl]
        cases h with
        | flush => exact .indented (Line.endIndented_concat hindented lines)
        | indented => exact .indented (Line.endIndented_concat hindented lines)
        | apart n h => exact absurd ⟨lines, n, l, h, hindented, List.prefix_rfl⟩ hspan

theorem bares_ofLines (skipSingles : Bool) {lines : List Line} (h : ¬Line.SpansEmpty lines) :
    Bares lines (ofLines skipSingles lines) (ofLines skipSingles (lines.map Line.bare)) := by
  induction lines using List.reverseRecOn with
  | nil => exact .flush rfl
  | append_singleton lines l ih =>
      rw [List.map_append, List.map_singleton, ofLines_concat, ofLines_concat]
      exact (ih fun hspan => h (hspan.concat l)).add skipSingles h

end Tally

/-- Where no empty lines stand between two indented ones, it does not matter what they are taken
for. -/
theorem Indent.detectBare_eq_detect {lines : List Line} (h : ¬Line.SpansEmpty lines) :
    detectBare lines = detect lines :=
  detect_congr fun skipSingles => (Tally.bares_ofLines skipSingles h).counts_eq

end Nesting
