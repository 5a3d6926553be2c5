import Nesting.Proofs.Diff.Refinement
import Nesting.Proofs.Histogram

/-!
# Additions and deletions make up all changes

The three choices of `Include` give three listings of a diff. They are measured with one unit, and
the counted lines of all changes are those of the additions and those of the deletions, put into
each other in the order of the diff; only their numbers differ, since each listing numbers the lines
that it was asked for. `listing_ofDiff_partition` is the whole statement.

Which of the two a line counted among all changes comes from is read off its number
(`Diff.bears`): the number is the rank of its line among all changed lines.
-/

namespace Nesting

variable {drops : Line → Bool}

/-- The line of a diff from which a line was counted among all changes. -/
def Diff.origin? (diff : List Line) (c : CountedLine) : Option Line :=
  (diff.filter Include.both.passes)[c.number.toNat - 1]?

/-- Whether a line counted among all changes was read from a line with some mark. -/
def Diff.bears (diff : List Line) (m : Mark) (c : CountedLine) : Bool :=
  (Diff.origin? diff c).any m.isOn

/-! ## Which lines pass -/

/-- The lines with one mark are those of all changed lines that start with it. -/
theorem Include.passes_only (m : Mark) (l : Line) :
    m.only.passes l = (m.isOn l && Include.both.passes l) := by
  have htakes : m.only.takes l = (m.isOn l && Include.both.takes l) := by
    cases m <;> cases h : Mark.added.isOn l <;> simp [Mark.only, Include.takes, h]
  rw [Include.passes, htakes, Include.passes, Bool.and_left_comm]

theorem Diff.askedLines_only (m : Mark) (diff : List Line) :
    Diff.askedLines m.only diff =
      ((diff.filter Include.both.passes).filter m.isOn).map (·.drop 1) := by
  rw [Diff.askedLines, List.filter_filter,
    List.filter_congr fun l _ => Include.passes_only m l]

/-- A changed line starts with one of the two marks and not with the other. -/
theorem Mark.isOn_added_eq_not {l : Line} (h : Include.both.passes l = true) :
    Mark.added.isOn l = !Mark.deleted.isOn l := by
  rw [Include.passes, Bool.and_eq_true] at h
  cases hadded : Mark.added.isOn l with
  | false =>
      have hdeleted : Mark.deleted.isOn l = true := by
        simpa [Include.takes, hadded] using h.2
      rw [hdeleted]
      rfl
  | true =>
      cases hdeleted : Mark.deleted.isOn l with
      | false => rfl
      | true => exact absurd (Mark.eq_of_isOn hadded hdeleted) (by decide)

/-! ## Where a counted line comes from -/

/-- The lines before some line, and it, in a list with one more line at the start. -/
theorem exists_split_cons {P : List Line → Line → Prop} (x : Line) (rest : List Line) :
    (∃ before l after, x :: rest = before ++ l :: after ∧ P before l) ↔
      P [] x ∨ ∃ before l after, rest = before ++ l :: after ∧ P (x :: before) l := by
  constructor
  · rintro ⟨before, l, after, heq, hP⟩
    cases before with
    | nil =>
        obtain ⟨rfl, -⟩ := List.cons.inj heq
        exact Or.inl hP
    | cons y before =>
        obtain ⟨rfl, hrest⟩ := List.cons.inj heq
        exact Or.inr ⟨before, l, after, hrest, hP⟩
  · rintro (hP | ⟨before, l, after, heq, hP⟩)
    · exact ⟨[], x, rest, rfl, hP⟩
    · exact ⟨x :: before, l, after, by rw [heq]; rfl, hP⟩

/-- A counted line comes from a line that was asked for, and its number is one more than the lines
asked for before that one. The induction moves the number along. -/
theorem mem_countFrom_askedLines {which : Include} {unit : Int} {c : CountedLine} (first : Nat)
    (diff : List Line) :
    c ∈ countFrom first unit drops (Diff.askedLines which diff) ↔
      ∃ before l after, diff = before ++ l :: after
        ∧ which.passes l = true
        ∧ CountedLine.ofLine? unit drops (l.drop 1) (first + before.countP which.passes)
            = some c := by
  induction diff generalizing first with
  | nil => simp [Diff.askedLines]
  | cons x rest ih =>
      rw [exists_split_cons (P := fun before l => which.passes l = true
        ∧ CountedLine.ofLine? unit drops (l.drop 1) (first + before.countP which.passes) = some c)]
      cases hx : which.passes x with
      | false =>
          have hcount : ∀ before : List Line,
              (x :: before).countP which.passes = before.countP which.passes :=
            fun before => List.countP_cons_of_neg (by simp [hx])
          rw [Diff.askedLines_cons_of_not_passes hx, ih]
          simp only [hcount, Bool.false_eq_true, false_and, false_or]
      | true =>
          have hcount : ∀ before : List Line,
              first + (x :: before).countP which.passes =
                first + 1 + before.countP which.passes := by
            intro before
            rw [List.countP_cons_of_pos hx]
            omega
          rw [Diff.askedLines_cons_of_passes hx, countFrom_cons, List.mem_append,
            Option.mem_toList, ih]
          simp only [hcount, List.countP_nil, Nat.add_zero, true_and]

namespace Listing

/-- What is measured of the lines with one mark is what is measured of the lines counted among all
changes that bear it, in the same order. -/
theorem map_measured_filter_bears (unit : Int) (drops : Line → Bool) (m : Mark)
    (diff : List Line) :
    ((countLines unit drops (Diff.askedLines .both diff)).filter
        (Diff.bears diff m)).map CountedLine.measured =
      (countLines unit drops (Diff.askedLines m.only diff)).map CountedLine.measured := by
  rw [countLines_eq_countFrom, countLines_eq_countFrom, map_measured_countFrom,
    Diff.askedLines_only]
  exact map_measured_filter_countFrom (·.drop 1) m.isOn 1 (diff.filter Include.both.passes)

/-- A line counted among all changes bears one mark and not the other. -/
theorem bears_added_eq_not {unit : Int} {diff : List Line} {c : CountedLine}
    (hc : c ∈ countLines unit drops (Diff.askedLines .both diff)) :
    Diff.bears diff .added c = !Diff.bears diff .deleted c := by
  obtain ⟨i, code, hcode, hline⟩ := mem_countFrom.mp hc
  rw [Diff.askedLines, List.getElem?_map, Option.map_eq_some_iff] at hcode
  obtain ⟨l, hl, -⟩ := hcode
  have horigin : Diff.origin? diff c = some l := by
    rw [Diff.origin?, CountedLine.number_of_ofLine? hline, Int.toNat_natCast,
      Nat.add_sub_cancel_left, hl]
  have hpasses : Include.both.passes l = true :=
    (List.mem_filter.mp (List.mem_of_getElem? hl)).2
  rw [Diff.bears, Diff.bears, horigin, Option.any_some, Option.any_some]
  exact Mark.isOn_added_eq_not hpasses

/-- Depths and contents of all changes are those of the additions and of the deletions together. -/
theorem measured_perm (unit : Int) (drops : Line → Bool) (diff : List Line) :
    ((countLines unit drops (Diff.askedLines .both diff)).map CountedLine.measured).Perm
      ((countLines unit drops (Diff.askedLines .additions diff)).map CountedLine.measured
        ++ (countLines unit drops (Diff.askedLines .deletions diff)).map CountedLine.measured) := by
  have hadded := map_measured_filter_bears unit drops .added diff
  have hdeleted := map_measured_filter_bears unit drops .deleted diff
  have hnot : (countLines unit drops (Diff.askedLines .both diff)).filter
        (fun c => !Diff.bears diff .added c) =
      (countLines unit drops (Diff.askedLines .both diff)).filter (Diff.bears diff .deleted) :=
    List.filter_congr fun c hc => by rw [bears_added_eq_not hc, Bool.not_not]
  have hperm := (List.filter_append_perm (Diff.bears diff .added)
    (countLines unit drops (Diff.askedLines .both diff))).symm.map CountedLine.measured
  rw [List.map_append, hnot, hadded, hdeleted] at hperm
  exact hperm

/-- The unit in which the changes of a diff are measured, whichever are asked for. -/
theorem unit_ofDiff (which : Include) (drops : Line → Bool) (text : String) :
    (ofDiff which drops text).unit = (Indent.detect (Diff.codeLines (linesOf text))).unit := rfl

theorem lines_ofDiff (which : Include) (drops : Line → Bool) (text : String) :
    (ofDiff which drops text).lines =
      countLines (ofDiff .both drops text).unit drops
        (Diff.askedLines which (linesOf text)) := by
  rw [unit_ofDiff, Diff.codeLines_eq_askedLines, ofDiff, ofDiffLines_eq]

end Listing

/-- The listings of a diff under the three choices. They have one unit. A listing holds the lines
that were asked for and count, each under its rank among the lines asked for, in ascending order.
Each line counted among all changes bears one of the two marks; those that bear a mark are the lines
counted when only that mark is asked for, in order, but for the numbers. So the lengths add up, and
so do the histograms, depth by depth. -/
theorem listing_ofDiff_partition (drops : Line → Bool) (text : String) :
    let diff := linesOf text
    let listing := fun which => Listing.ofDiff which drops text
    (∀ which, (listing which).unit = (listing .both).unit)
      ∧ (∀ which c, c ∈ (listing which).lines ↔
          ∃ before l after, diff = before ++ l :: after
            ∧ which.passes l = true
            ∧ CountedLine.ofLine? (listing .both).unit drops (l.drop 1)
                (1 + before.countP which.passes) = some c)
      ∧ (∀ which, (listing which).lines.Pairwise fun c c' => c.number < c'.number)
      ∧ (∀ c ∈ (listing .both).lines, Diff.bears diff .added c = !Diff.bears diff .deleted c)
      ∧ (∀ m : Mark,
          ((listing .both).lines.filter (Diff.bears diff m)).map CountedLine.measured =
            (listing m.only).lines.map CountedLine.measured)
      ∧ (listing .both).lines.length =
          (listing .additions).lines.length + (listing .deletions).lines.length
      ∧ ∀ depth,
          countIn (depthCounts (listing .both).depths) depth =
            countIn (depthCounts (listing .additions).depths) depth
              + countIn (depthCounts (listing .deletions).depths) depth := by
  intro diff listing
  have hlines : ∀ which, (listing which).lines =
      countLines (listing .both).unit drops (Diff.askedLines which diff) :=
    fun which => Listing.lines_ofDiff which drops text
  have hperm := Listing.measured_perm (listing .both).unit drops diff
  simp only [← hlines] at hperm
  refine ⟨fun which => rfl, fun which c => ?_, fun which => ?_, fun c hc => ?_, fun m => ?_, ?_,
    fun depth => ?_⟩
  · rw [hlines which]
    exact mem_countFrom_askedLines 1 diff
  · rw [hlines which]
    exact pairwise_countFrom 1 _
  · rw [hlines .both] at hc
    exact Listing.bears_added_eq_not hc
  · rw [hlines .both, hlines m.only]
    exact Listing.map_measured_filter_bears _ drops m diff
  · simpa only [List.length_append, List.length_map] using hperm.length_eq
  · have hdepths := hperm.map Prod.fst
    rw [List.map_append] at hdepths
    simp only [← Listing.depths_eq_map_measured] at hdepths
    exact countIn_depthCounts_of_perm hdepths depth

/-- A deleted line, an added one, an added blank one that takes up a number, and another. -/
theorem listing_ofDiff_partition_four :
    let drops := Comment.drops none
    let text := textOf ["@@".toList, "-a".toList, "+  b".toList, " c".toList, "+".toList,
      "+  d".toList]
    let diff := linesOf text
    (⟨4, 1, "d"⟩ : CountedLine) ∈ (Listing.ofDiff .both drops text).lines
      ∧ Diff.bears diff .added ⟨4, 1, "d"⟩ = !Diff.bears diff .deleted ⟨4, 1, "d"⟩
      ∧ (Listing.ofDiff .both drops text).lines.length =
          (Listing.ofDiff .additions drops text).lines.length
            + (Listing.ofDiff .deletions drops text).lines.length := by
  intro drops text diff
  have hlines : linesOf text = ["@@".toList, "-a".toList, "+  b".toList, " c".toList,
      "+".toList, "+  d".toList] := linesOf_textOf (by simp) (by simp)
  have hmem : (⟨4, 1, "d"⟩ : CountedLine) ∈ (Listing.ofDiff .both drops text).lines := by
    rw [Listing.ofDiff, hlines]
    decide
  obtain ⟨-, -, -, hbears, -, hlength, -⟩ := listing_ofDiff_partition drops text
  exact ⟨hmem, hbears _ hmem, hlength⟩

end Nesting
