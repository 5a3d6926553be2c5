import Nesting.Analysis
import Nesting.Proofs.CommentMarkers
import Nesting.Proofs.Diff.Count
import Nesting.Proofs.EmptyLines

/-!
# Lines that end with a carriage return

A text is cut at its line feeds, so where lines end with a carriage return and a line feed
(`withReturns`), the carriage return is left at the end of every line but the last. There it is a
blank behind all that is measured: number, content and whether the line counts stay the same
(`ofLine?_concat_return`), and so do the lead and whether the line is asked for in a diff.

What changes is that an empty line is not empty any more. The detection of the step takes it for an
unindented one, so the step is that of `Indent.detectBare`, and `listing_withReturns` says that the
listing is the same just when the unit is the same. It is unless empty lines, and nothing else,
stand between two indented ones; `unit_withReturns_ne` is a text in which they do, and the unit
differs.
-/

namespace Nesting

/-- Characters with a carriage return before every line feed. -/
def addReturns (text : List Char) : List Char :=
  text.flatMap fun c => if c = '\n' then ['\r', '\n'] else [c]

/-- A text with a carriage return before every line feed. -/
def withReturns (text : String) : String :=
  String.ofList (addReturns text.toList)

/-! ## The lines -/

theorem addReturns_newline (rest : List Char) :
    addReturns ('\n' :: rest) = '\r' :: '\n' :: addReturns rest := rfl

theorem addReturns_cons {c : Char} (h : c ≠ '\n') (rest : List Char) :
    addReturns (c :: rest) = c :: addReturns rest := by
  rw [addReturns, List.flatMap_cons, if_neg h]
  rfl

/-- Lines, a carriage return at the end of each but the last. -/
def returnLines : List Line → List Line
  | [] => []
  | [l] => [l]
  | l :: l' :: rest => (l ++ ['\r']) :: returnLines (l' :: rest)

theorem returnLines_concat (init : List Line) (last : Line) :
    returnLines (init ++ [last]) = init.map (· ++ ['\r']) ++ [last] := by
  induction init with
  | nil => rfl
  | cons l init ih =>
      cases init with
      | nil => rfl
      | cons l' init =>
          rw [List.cons_append, List.cons_append, returnLines, ← List.cons_append, ih]
          rfl

theorem returnLines_modifyHead_cons (c : Char) (lines : List Line) :
    returnLines (lines.modifyHead (c :: ·)) = (returnLines lines).modifyHead (c :: ·) := by
  rcases lines with _ | ⟨l, _ | ⟨l', rest⟩⟩
  · rfl
  · rfl
  · rfl

theorem splitLines_addReturns (text : List Char) :
    splitLines (addReturns text) = returnLines (splitLines text) := by
  induction text with
  | nil => rfl
  | cons c rest ih =>
      by_cases hc : c = '\n'
      · subst hc
        rw [addReturns_newline, splitLines_cons (by decide), splitLines_newline,
          splitLines_newline, ih]
        cases hrest : splitLines rest with
        | nil => exact absurd hrest (splitLines_ne_nil rest)
        | cons l lines => rfl
      · rw [addReturns_cons hc, splitLines_cons hc, splitLines_cons hc, ih,
          returnLines_modifyHead_cons]

theorem linesOf_withReturns {text : String} {init : List Line} {last : Line}
    (h : linesOf text = init ++ [last]) :
    linesOf (withReturns text) = init.map (· ++ ['\r']) ++ [last] := by
  rw [linesOf, withReturns, String.toList_ofList, splitLines_addReturns, ← returnLines_concat, ← h]
  rfl

theorem exists_linesOf_eq_concat (text : String) :
    ∃ init last, linesOf text = init ++ [last] :=
  ⟨_, _, (List.dropLast_concat_getLast (splitLines_ne_nil text.toList)).symm⟩

/-- What holds of each line with a carriage return and the line without holds of the lines. -/
theorem forall₂_map_concat_return {R : Line → Line → Prop} (h : ∀ l, R (l ++ ['\r']) l)
    (hrefl : ∀ l, R l l) (init last : List Line) :
    List.Forall₂ R (init.map (· ++ ['\r']) ++ last) (init ++ last) := by
  induction init with
  | nil => exact List.forall₂_same.mpr fun l _ => hrefl l
  | cons l init ih => exact List.Forall₂.cons (h l) ih

/-! ## One line -/

theorem isPrefixOf_concat {s l : List Char} {c : Char} (h : c ∉ s) :
    s.isPrefixOf (l ++ [c]) = s.isPrefixOf l := by
  induction s generalizing l with
  | nil => rw [List.isPrefixOf_nil_left, List.isPrefixOf_nil_left]
  | cons d s ih =>
      obtain ⟨hd, hs⟩ := not_or.mp (mt List.mem_cons.mpr h)
      cases l with
      | nil =>
          have hne : (d == c) = false := beq_eq_false_iff_ne.mpr (Ne.symm hd)
          rw [List.nil_append, List.isPrefixOf_cons_cons, hne]
          rfl
      | cons a l => rw [List.cons_append, List.isPrefixOf_cons_cons, ih hs]; rfl

theorem any_isPrefixOf_concat {starts : List (List Char)} {c : Char} (h : ∀ s ∈ starts, c ∉ s)
    (l : Line) : (starts.any (·.isPrefixOf (l ++ [c]))) = starts.any (·.isPrefixOf l) := by
  induction starts with
  | nil => rfl
  | cons s rest ih =>
      obtain ⟨hs, hrest⟩ := List.forall_mem_cons.mp h
      rw [List.any_cons, List.any_cons, isPrefixOf_concat hs, ih hrest]

theorem isFlush_return : Line.IsFlush ['\r'] :=
  Line.isFlush_of_not_isMargin rfl

theorem drops_concat_return {comments : Option Pattern} (h : Comment.IsStandard comments)
    (l : Line) : Comment.drops comments (l ++ ['\r']) = Comment.drops comments l := by
  refine Comment.drops_congr h ?_
  rw [Line.trimStart_concat (by decide)]
  split
  · next hnil => rw [hnil]
  · exact any_isPrefixOf_concat (by decide) _

theorem ofLine?_concat_return {comments : Option Pattern} (h : Comment.IsStandard comments)
    (unit : Int) (l : Line) (n : Nat) :
    CountedLine.ofLine? unit (Comment.drops comments) (l ++ ['\r']) n =
      CountedLine.ofLine? unit (Comment.drops comments) l n := by
  rw [CountedLine.ofLine?, CountedLine.ofLine?, Line.trim_concat (by decide),
    drops_concat_return h, Line.depth_append isFlush_return]

theorem countLines_returns {comments : Option Pattern} (h : Comment.IsStandard comments)
    (unit : Int) (init last : List Line) :
    countLines unit (Comment.drops comments) (init.map (· ++ ['\r']) ++ last) =
      countLines unit (Comment.drops comments) (init ++ last) :=
  countFrom_congr (forall₂_map_concat_return (ofLine?_concat_return h unit) (fun _ _ => rfl)
    init last) 1

/-! ## The step -/

/-- An empty line with a carriage return is an unindented one, and the others keep their leads. Of
the last line, which gets none, it does not matter: nothing follows whose lead it could forget. -/
theorem Indent.detect_returns (init : List Line) {last : List Line} (hlast : last.length ≤ 1) :
    detect (init.map (· ++ ['\r']) ++ last) = detectBare (init ++ last) := by
  refine detect_congr fun skipSingles => ?_
  have hinit : Tally.ofLines skipSingles (init.map (· ++ ['\r'])) =
      Tally.ofLines skipSingles (init.map Line.bare) := by
    refine Tally.ofLines_congr ?_ skipSingles
    rw [List.forall₂_map_left_iff, List.forall₂_map_right_iff, List.forall₂_same]
    intro l _
    refine ⟨iff_of_false ?_ l.bare_ne_nil, ?_⟩
    · exact List.append_ne_nil_of_right_ne_nil l (List.cons_ne_nil _ _)
    · rw [Line.lead_append isFlush_return, Line.lead_bare]
  cases last with
  | nil => rw [List.append_nil, List.append_nil, hinit]
  | cons l rest =>
      obtain rfl : rest = [] := by
        rw [List.length_cons] at hlast
        exact List.length_eq_zero_iff.mp (by omega)
      rw [List.map_append, List.map_singleton, Tally.ofLines_concat, Tally.ofLines_concat, hinit,
        Tally.counts_add_bare]

/-! ## Diffs -/

theorem Mark.isOn_concat_return (m : Mark) (l : Line) : m.isOn (l ++ ['\r']) = m.isOn l :=
  isPrefixOf_concat (by cases m <;> decide)

theorem Include.passes_concat_return (which : Include) (l : Line) :
    which.passes (l ++ ['\r']) = which.passes l := by
  have hheader : Diff.isHeader (l ++ ['\r']) = Diff.isHeader l :=
    any_isPrefixOf_concat (by decide) l
  rw [passes, passes, hheader]
  cases which <;> simp only [takes, Mark.isOn_concat_return]

theorem Include.ne_nil_of_passes {which : Include} {l : Line} (h : which.passes l = true) :
    l ≠ [] := by
  rintro rfl
  cases which <;> cases h

theorem Diff.askedLines_append (which : Include) (diff diff' : List Line) :
    askedLines which (diff ++ diff') = askedLines which diff ++ askedLines which diff' := by
  rw [askedLines, List.filter_append, List.map_append]
  rfl

theorem Diff.askedLines_map_concat_return (which : Include) (diff : List Line) :
    askedLines which (diff.map (· ++ ['\r'])) = (askedLines which diff).map (· ++ ['\r']) := by
  induction diff with
  | nil => rfl
  | cons l rest ih =>
      have hpasses := Include.passes_concat_return which l
      cases h : which.passes l with
      | false =>
          rw [List.map_cons, askedLines_cons_of_not_passes (hpasses.trans h),
            askedLines_cons_of_not_passes h, ih]
      | true =>
          obtain ⟨c, code, rfl⟩ := List.exists_cons_of_ne_nil (Include.ne_nil_of_passes h)
          rw [List.map_cons, askedLines_cons_of_passes (hpasses.trans h),
            askedLines_cons_of_passes h, ih]
          rfl

theorem Diff.length_askedLines_singleton (which : Include) (l : Line) :
    (askedLines which [l]).length ≤ 1 := by
  rw [askedLines, List.length_map]
  exact List.length_filter_le _ _

/-! ## The listings -/

namespace Listing

theorem ofText_withReturns {comments : Option Pattern} (h : Comment.IsStandard comments)
    (text : String) :
    ofText (Comment.drops comments) (withReturns text) =
      ⟨countLines (Indent.detectBare (linesOf text)).unit (Comment.drops comments) (linesOf text),
        Indent.detectBare (linesOf text)⟩ := by
  obtain ⟨init, last, hlines⟩ := exists_linesOf_eq_concat text
  have hstep : Indent.detect (init.map (· ++ ['\r']) ++ [last]) =
      Indent.detectBare (init ++ [last]) := Indent.detect_returns init (Nat.le_refl 1)
  rw [ofText, linesOf_withReturns hlines, ofLines, hstep, countLines_returns h, hlines]

theorem ofDiff_withReturns {comments : Option Pattern} (h : Comment.IsStandard comments)
    (which : Include) (diff : String) :
    ofDiff which (Comment.drops comments) (withReturns diff) =
      ⟨countLines (Indent.detectBare (Diff.codeLines (linesOf diff))).unit
          (Comment.drops comments) (Diff.askedLines which (linesOf diff)),
        Indent.detectBare (Diff.codeLines (linesOf diff))⟩ := by
  obtain ⟨init, last, hlines⟩ := exists_linesOf_eq_concat diff
  have hasked : ∀ which, Diff.askedLines which (init.map (· ++ ['\r']) ++ [last]) =
      (Diff.askedLines which init).map (· ++ ['\r']) ++ Diff.askedLines which [last] := by
    intro which
    rw [Diff.askedLines_append, Diff.askedLines_map_concat_return]
  rw [ofDiff, linesOf_withReturns hlines, ofDiffLines_eq, hasked, hasked,
    Indent.detect_returns _ (Diff.length_askedLines_singleton .both last),
    countLines_returns h, ← Diff.askedLines_append, ← Diff.askedLines_append,
    Diff.codeLines_eq_askedLines, hlines]

/-- How the listing of a text whose lines end with carriage returns relates to the listing of the
text, where `code` is what the step is detected on. -/
structure Returns (code : List Line) (ended plain : Listing) : Prop where
  indent : ended.indent = Indent.detectBare code
  places : ended.lines.map CountedLine.place = plain.lines.map CountedLine.place
  same_iff : ended.unit = plain.unit ∧ ended.lines = plain.lines ↔
    (Indent.detectBare code).unit = plain.unit
  same : ¬Line.SpansEmpty code → ended = plain

/-- Two listings of the same lines, of which one takes empty lines for unindented ones. -/
theorem returns_of_eq {drops : Line → Bool} {code lines : List Line} {ended plain : Listing}
    (hended : ended = ⟨countLines (Indent.detectBare code).unit drops lines,
      Indent.detectBare code⟩)
    (hplain : plain = ⟨countLines (Indent.detect code).unit drops lines, Indent.detect code⟩) :
    ended.Returns code plain := by
  subst hended hplain
  refine ⟨rfl, map_place_countFrom _ _ 1 lines, ⟨fun h => h.1, fun h => ⟨h, ?_⟩⟩, fun h => ?_⟩
  · have hunit : (Indent.detectBare code).unit = (Indent.detect code).unit := h
    simp only [hunit]
  · rw [Indent.detectBare_eq_detect h]

end Listing

theorem map_report_analyzeListing (source : Source) (l : Listing) (o : AnalysisOptions) :
    (analyzeListing source l o).map (·.report) = Report.build l.lines o.tier o.thresholds := by
  rw [analyzeListing]
  cases Report.build l.lines o.tier o.thresholds <;> rfl

/-- A text, or a diff, whose lines end with carriage returns. The step is the one detected when
empty lines are unindented ones. The lines that count are the same, with the same contents; all of
the listing is the same just when the unit is, and then the report is the same, too. So it is if no
empty lines stand between two indented ones. -/
theorem listing_withReturns {o : AnalysisOptions} (h : Comment.IsStandard o.comments) :
    let drops := Comment.drops o.comments
    (∀ text,
      (Listing.ofText drops (withReturns text)).Returns (linesOf text) (Listing.ofText drops text)
        ∧ ((Indent.detectBare (linesOf text)).unit = (Indent.detect (linesOf text)).unit →
            (analyzeText (withReturns text) o).map (·.report) =
              (analyzeText text o).map (·.report)))
      ∧ ∀ which diff,
          let code := Diff.codeLines (linesOf diff)
          (Listing.ofDiff which drops (withReturns diff)).Returns code
              (Listing.ofDiff which drops diff)
            ∧ ((Indent.detectBare code).unit = (Indent.detect code).unit →
                (analyzeDiff which (withReturns diff) o).map (·.report) =
                  (analyzeDiff which diff o).map (·.report)) := by
  intro drops
  refine ⟨fun text => ?_, fun which diff => ?_⟩
  · have hplain : Listing.ofText drops text =
        ⟨countLines (Indent.detect (linesOf text)).unit drops (linesOf text),
          Indent.detect (linesOf text)⟩ := rfl
    have hreturns := Listing.returns_of_eq (Listing.ofText_withReturns h text) hplain
    refine ⟨hreturns, fun hunit => ?_⟩
    rw [analyzeText, analyzeText, map_report_analyzeListing, map_report_analyzeListing,
      (hreturns.same_iff.mpr hunit).2]
  · intro code
    have hplain : Listing.ofDiff which drops diff =
        ⟨countLines (Indent.detect code).unit drops (Diff.askedLines which (linesOf diff)),
          Indent.detect code⟩ := by
      rw [Listing.ofDiff, Listing.ofDiffLines_eq, ← Diff.codeLines_eq_askedLines]
    have hreturns := Listing.returns_of_eq (Listing.ofDiff_withReturns h which diff) hplain
    refine ⟨hreturns, fun hunit => ?_⟩
    rw [analyzeDiff, analyzeDiff, map_report_analyzeListing, map_report_analyzeListing,
      (hreturns.same_iff.mpr hunit).2]

theorem listing_withReturns_two :
    let drops := Comment.drops (some Comment.defaultPattern)
    let text := textOf ["a".toList, "  b".toList, []]
    Comment.IsStandard (some Comment.defaultPattern)
      ∧ (Indent.detectBare (linesOf text)).unit = (Indent.detect (linesOf text)).unit
      ∧ (Listing.ofText drops (withReturns text)).lines = (Listing.ofText drops text).lines := by
  intro drops text
  have hlines : linesOf text = ["a".toList, "  b".toList, []] := linesOf_textOf (by simp) (by simp)
  have hunit : (Indent.detectBare (linesOf text)).unit = (Indent.detect (linesOf text)).unit := by
    rw [hlines]
    decide
  have hreturns := ((listing_withReturns (o := {}) (Or.inr rfl)).1 text).1
  exact ⟨Or.inr rfl, hunit, (hreturns.same_iff.mpr hunit).2⟩

/-- Behind the empty line, the last lead repeats the step of four. Behind one that is not empty, it
is a step of six, and among three steps used once each the one of two came first. -/
theorem unit_withReturns_ne :
    let drops := Comment.drops (some Comment.defaultPattern)
    let text := textOf ["  a".toList, "      b".toList, [], "      c".toList]
    '\r' ∉ text.toList
      ∧ (Listing.ofText drops text).unit = 4
      ∧ (Listing.ofText drops text).depths = [0, 1, 1]
      ∧ (Listing.ofText drops (withReturns text)).unit = 2
      ∧ (Listing.ofText drops (withReturns text)).depths = [1, 3, 3] := by
  intro drops text
  have hlines : linesOf text = ["  a".toList, "      b".toList, [], "      c".toList] :=
    linesOf_textOf (by simp) (by simp)
  have hdrops : drops = fun l => Comment.markers.any (·.isPrefixOf l.trimStart) :=
    funext Comment.occursIn_defaultPattern
  have hplain : Listing.ofText drops text =
      ⟨[⟨1, 0, "a"⟩, ⟨2, 1, "b"⟩, ⟨4, 1, "c"⟩], ⟨4, some .space⟩⟩ := by
    rw [Listing.ofText, hlines, hdrops]
    decide
  have hended : Listing.ofText drops (withReturns text) =
      ⟨[⟨1, 1, "a"⟩, ⟨2, 3, "b"⟩, ⟨4, 3, "c"⟩], ⟨2, some .space⟩⟩ := by
    have hstep := Listing.ofText_withReturns (Or.inr rfl : Comment.IsStandard _) text
    rw [hlines] at hstep
    refine hstep.trans ?_
    show Listing.mk (countLines _ drops _) _ = _
    rw [hdrops]
    decide
  rw [hplain, hended]
  refine ⟨?_, rfl, rfl, rfl, rfl⟩
  simp [text, textOf, joinLines, List.intercalate]

end Nesting
