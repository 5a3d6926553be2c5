import Nesting.Proofs.LineEnding
import Nesting.Proofs.Reordering

/-!
# What stands behind the margin

Of a line only its margin is measured. What stands behind it is asked two questions, whether there
is anything and whether the line counts, and beyond the answers nothing of it reaches a depth.
`Line.SameMeasure` says that two lines have one margin and give the same answers.

The lead of a line is read off its margin (`lead_margin`), so texts whose lines are of the same
measure, one by one, have the same step (`Indent.detect_eq_of_sameMeasure`) and count the same
numbers with the same depths (`map_depthAt_countFrom`). A diff asks two questions more of a line,
what it starts with and whether it is a header; lines that agree on these as well
(`Diff.SameShape`) are asked for together, and `figures_of_sameMeasure` holds for diffs, too.
-/

namespace Nesting

variable {drops : Line → Bool}

/-! ## Two lines -/

namespace Line

/-- Whether a line does not count, as it is blank or dropped. -/
def IsSkipped (drops : Line → Bool) (l : Line) : Prop :=
  l.trim = [] ∨ drops l = true

instance (drops : Line → Bool) (l : Line) : Decidable (IsSkipped drops l) :=
  inferInstanceAs (Decidable (_ ∨ _))

/-- Whether two lines differ in nothing that is measured. -/
structure SameMeasure (drops : Line → Bool) (l l' : Line) : Prop where
  margin : l.margin = l'.margin
  empty : l = [] ↔ l' = []
  skipped : IsSkipped drops l ↔ IsSkipped drops l'

instance (drops : Line → Bool) (l l' : Line) : Decidable (SameMeasure drops l l') :=
  decidable_of_iff (l.margin = l'.margin ∧ (l = [] ↔ l' = [])
    ∧ (IsSkipped drops l ↔ IsSkipped drops l'))
    ⟨fun h => ⟨h.1, h.2.1, h.2.2⟩, fun h => ⟨h.margin, h.empty, h.skipped⟩⟩

theorem lead_margin (l : Line) : lead l.margin = lead l := by
  have hflush : IsFlush (l.dropWhile isMargin) := by
    intro c hc
    have hnot := List.head?_dropWhile_not isMargin l
    rw [Option.mem_def.mp hc] at hnot
    exact hnot
  have hl := lead_append hflush l.margin
  rw [margin, List.takeWhile_append_dropWhile] at hl
  exact hl.symm

variable {l l' : Line}

theorem SameMeasure.lead (h : SameMeasure drops l l') : l.lead = l'.lead := by
  rw [← lead_margin l, ← lead_margin l', h.margin]

theorem SameMeasure.depth (h : SameMeasure drops l l') (unit : Int) :
    l.depth unit = l'.depth unit := by
  simp only [Line.depth, columns, h.margin]

end Line

/-! ## Two texts -/

namespace CountedLine

/-- Where a line stands and how deep it is: all of it but its content. -/
def depthAt (c : CountedLine) : Int × Int := (c.number, c.depth)

theorem map_depthAt_ofLine? {l l' : Line} (h : Line.SameMeasure drops l l') (unit : Int)
    (n : Nat) :
    (ofLine? unit drops l n).map depthAt = (ofLine? unit drops l' n).map depthAt := by
  have hskipped := h.skipped
  unfold Line.IsSkipped at hskipped
  unfold ofLine?
  by_cases hl : l.trim = [] ∨ drops l = true
  · rw [if_pos hl, if_pos (hskipped.mp hl)]
  · rw [if_neg hl, if_neg (mt hskipped.mpr hl)]
    simp [depthAt, h.depth]

end CountedLine

theorem map_depthAt_countFrom {lines lines' : List Line}
    (h : List.Forall₂ (Line.SameMeasure drops) lines lines') (unit : Int) (first : Nat) :
    (countFrom first unit drops lines).map CountedLine.depthAt =
      (countFrom first unit drops lines').map CountedLine.depthAt := by
  induction h generalizing first with
  | nil => rfl
  | cons hl _ ih =>
      have hfirst := CountedLine.map_depthAt_ofLine? hl unit first
      rw [countFrom_cons, countFrom_cons, List.map_append, List.map_append, ih,
        ← Option.toList_map, ← Option.toList_map, hfirst]

theorem Indent.detect_eq_of_sameMeasure {lines lines' : List Line}
    (h : List.Forall₂ (Line.SameMeasure drops) lines lines') : detect lines = detect lines' := by
  refine detect_congr fun skipSingles => ?_
  rw [Tally.ofLines_congr (h.imp fun _ _ hl => ⟨hl.empty, hl.lead⟩) skipSingles]

/-! ## Two diffs -/

/-- Two lines of a diff that start alike, are headers alike, and have code of the same measure if
they have any. -/
structure Diff.SameShape (drops : Line → Bool) (l l' : Line) : Prop where
  head : l.head? = l'.head?
  header : Diff.isHeader l = Diff.isHeader l'
  code : Include.both.passes l = true → Line.SameMeasure drops (l.drop 1) (l'.drop 1)

theorem Mark.isOn_eq_head? (m : Mark) (l : Line) : m.isOn l = (l.head? == some m.char) := by
  cases l with
  | nil => rfl
  | cons c code => simp [isOn, List.isPrefixOf_cons_cons, Bool.beq_comm (a := c)]

/-- What is asked for under some choice is asked for under the choice of both changes. -/
theorem Include.both_passes_of_passes {which : Include} {l : Line} (h : which.passes l = true) :
    both.passes l = true := by
  simp only [passes, takes, Bool.and_eq_true, Bool.or_eq_true] at h ⊢
  refine ⟨h.1, ?_⟩
  cases which with
  | additions => exact Or.inl h.2
  | deletions => exact Or.inr h.2
  | both => simpa [takes] using h.2

namespace Diff.SameShape

variable {l l' : Line}

theorem passes (h : SameShape drops l l') (which : Include) :
    which.passes l = which.passes l' := by
  cases which <;> simp only [Include.passes, Include.takes, Mark.isOn_eq_head?, h.head, h.header]

theorem askedLines {diff diff' : List Line} (h : List.Forall₂ (SameShape drops) diff diff')
    (which : Include) :
    List.Forall₂ (Line.SameMeasure drops) (askedLines which diff) (askedLines which diff') := by
  induction h with
  | nil => exact .nil
  | cons hl _ ih =>
      have hpasses := hl.passes which
      cases hl' : which.passes _ with
      | false =>
          rw [askedLines_cons_of_not_passes hl',
            askedLines_cons_of_not_passes (hpasses.symm.trans hl')]
          exact ih
      | true =>
          rw [askedLines_cons_of_passes hl', askedLines_cons_of_passes (hpasses.symm.trans hl')]
          exact .cons (hl.code (Include.both_passes_of_passes hl')) ih

end Diff.SameShape

/-! ## Listings and reports -/

namespace Listing

/-- Whether two listings differ in nothing but contents. -/
structure SameDepths (l l' : Listing) : Prop where
  indent : l.indent = l'.indent
  lines : l.lines.map CountedLine.depthAt = l'.lines.map CountedLine.depthAt

theorem SameDepths.depths {l l' : Listing} (h : SameDepths l l') : l.depths = l'.depths := by
  have hdepths := congrArg (List.map Prod.snd) h.lines
  rwa [List.map_map, List.map_map] at hdepths

/-- All that is told of a listing but its lines comes from its depths. -/
theorem figures_of_depths_eq {l l' : Listing} (h : l.depths = l'.depths) (source : Source)
    (o : AnalysisOptions) :
    (analyzeListing source l o).map (·.report.figures) =
      (analyzeListing source l' o).map (·.report.figures) := by
  have hfigures : ∀ l : Listing, (analyzeListing source l o).map (·.report.figures) =
      (measure l.depths).bind (·.figures o.tier o.thresholds) := by
    intro l
    rw [Listing.depths, ← map_figures_build, ← map_report_analyzeListing source]
    cases analyzeListing source l o <;> rfl
  rw [hfigures, hfigures, h]

theorem sameDepths_of_sameMeasure {all all' lines lines' : List Line}
    (hall : List.Forall₂ (Line.SameMeasure drops) all all')
    (hlines : List.Forall₂ (Line.SameMeasure drops) lines lines') :
    SameDepths ⟨countLines (Indent.detect all).unit drops lines, Indent.detect all⟩
      ⟨countLines (Indent.detect all').unit drops lines', Indent.detect all'⟩ where
  indent := Indent.detect_eq_of_sameMeasure hall
  lines := by
    rw [Indent.detect_eq_of_sameMeasure hall]
    exact map_depthAt_countFrom hlines _ 1

end Listing

/-- Two texts whose lines have the same margins one by one, are empty together and count together,
whatever else they hold: they have the same indentation, the same numbers are counted with the same
depths, and all that a report tells but the contents of lines is the same, or they are refused with
the same error. So it is with two diffs whose lines start alike and are headers alike, when that
holds of their changed lines without the marks. -/
theorem figures_of_sameMeasure (o : AnalysisOptions) :
    let drops := Comment.drops o.comments
    (∀ text text' : String,
      List.Forall₂ (Line.SameMeasure drops) (linesOf text) (linesOf text') →
        Listing.SameDepths (Listing.ofText drops text) (Listing.ofText drops text')
          ∧ (analyzeText text o).map (·.report.figures) =
              (analyzeText text' o).map (·.report.figures))
      ∧ ∀ (which : Include) (diff diff' : String),
          List.Forall₂ (Diff.SameShape drops) (linesOf diff) (linesOf diff') →
            Listing.SameDepths (Listing.ofDiff which drops diff) (Listing.ofDiff which drops diff')
              ∧ (analyzeDiff which diff o).map (·.report.figures) =
                  (analyzeDiff which diff' o).map (·.report.figures) := by
  intro drops
  refine ⟨fun text text' h => ?_, fun which diff diff' h => ?_⟩
  · have hsame : Listing.SameDepths (Listing.ofText drops text) (Listing.ofText drops text') :=
      Listing.sameDepths_of_sameMeasure h h
    exact ⟨hsame, Listing.figures_of_depths_eq hsame.depths .text o⟩
  · have hsame : Listing.SameDepths (Listing.ofDiff which drops diff)
        (Listing.ofDiff which drops diff') := by
      rw [Listing.ofDiff, Listing.ofDiff, Listing.ofDiffLines_eq, Listing.ofDiffLines_eq]
      exact Listing.sameDepths_of_sameMeasure (Diff.SameShape.askedLines h .both)
        (Diff.SameShape.askedLines h which)
    exact ⟨hsame, Listing.figures_of_depths_eq hsame.depths (.diff which) o⟩

/-- Two texts with a margin of both kinds, an empty line and a comment, which have no other
character in common. -/
theorem figures_of_sameMeasure_four :
    let o : AnalysisOptions := {}
    let drops := Comment.drops o.comments
    let text := textOf ["if a:".toList, "\t  b".toList, [], "# c".toList]
    let text' := textOf ["x(".toList, "\t  y)".toList, [], "//".toList]
    List.Forall₂ (Line.SameMeasure drops) (linesOf text) (linesOf text')
      ∧ Listing.SameDepths (Listing.ofText drops text) (Listing.ofText drops text')
      ∧ (analyzeText text o).map (·.report.figures) =
          (analyzeText text' o).map (·.report.figures) := by
  intro o drops text text'
  have hlines : linesOf text = ["if a:".toList, "\t  b".toList, [], "# c".toList] :=
    linesOf_textOf (by simp) (by simp)
  have hlines' : linesOf text' = ["x(".toList, "\t  y)".toList, [], "//".toList] :=
    linesOf_textOf (by simp) (by simp)
  have hdrops : drops = fun l => Comment.markers.any (·.isPrefixOf l.trimStart) :=
    funext Comment.occursIn_defaultPattern
  have hsame : List.Forall₂ (Line.SameMeasure drops) (linesOf text) (linesOf text') := by
    rw [hlines, hlines', hdrops]
    exact .cons (by decide) (.cons (by decide) (.cons (by decide) (.cons (by decide) .nil)))
  obtain ⟨hdepths, hfigures⟩ := (figures_of_sameMeasure o).1 text text' hsame
  exact ⟨hsame, hdepths, hfigures⟩

end Nesting
