import Nesting.Proofs.LineBodies

/-!
# Empty lines put into a text

The detection of the step carries the last lead across an empty line, and an empty line does not
count; all that it does is take up a number. So a text has the step, and the depths and contents, of
what is left of it without its empty lines (`Indent.detect_filter_ne_nil`,
`map_measured_filter_ne_nil`), and one empty line more moves the lines behind it by one
(`countLines_insert_nil`).

`AddsEmptyLine` is one empty line put in, at the level of the text: a line feed at the start, behind
another one, or at the end.
-/

namespace Nesting

variable {unit : Int} {drops : Line → Bool}

/-! ## One line feed more -/

/-- One text is another with an empty line put in behind the first `n` lines. -/
inductive AddsEmptyLine : (n : Nat) → (text text' : String) → Prop where
  | start (text : String) : AddsEmptyLine 0 text ("\n" ++ text)
  | between (text rest : String) :
      AddsEmptyLine (linesOf text).length (text ++ "\n" ++ rest) (text ++ "\n" ++ "\n" ++ rest)
  | finish (text : String) : AddsEmptyLine (linesOf text).length text (text ++ "\n")

theorem linesOf_concat_newline (text : String) : linesOf (text ++ "\n") = linesOf text ++ [[]] := by
  have happend := linesOf_append text ""
  rw [String.append_empty] at happend
  exact happend

theorem AddsEmptyLine.exists_lines {n : Nat} {text text' : String}
    (h : AddsEmptyLine n text text') :
    ∃ before after, linesOf text = before ++ after ∧ linesOf text' = before ++ [] :: after
      ∧ before.length = n := by
  cases h with
  | start =>
      refine ⟨[], linesOf text, rfl, ?_, rfl⟩
      rw [linesOf, String.toList_append]
      exact splitLines_newline text.toList
  | between text rest =>
      refine ⟨linesOf text, linesOf rest, linesOf_append text rest, ?_, rfl⟩
      rw [linesOf_append, linesOf_concat_newline, List.append_assoc]
      rfl
  | finish =>
      exact ⟨linesOf text, [], (List.append_nil _).symm, linesOf_concat_newline text, rfl⟩

/-! ## What is left without empty lines -/

theorem Indent.detect_filter_ne_nil (lines : List Line) :
    detect (lines.filter (· ≠ [])) = detect lines := by
  refine detect_congr fun skipSingles => ?_
  rw [Tally.ofLines_filter]
  intro t l hl
  rw [not_not.mp hl, Tally.add_nil]

theorem map_measured_filter_ne_nil (first first' : Nat) (lines : List Line) :
    (countFrom first unit drops (lines.filter (· ≠ []))).map CountedLine.measured =
      (countFrom first' unit drops lines).map CountedLine.measured := by
  rw [map_measured_countFrom, map_measured_countFrom, List.filterMap_filter]
  refine List.filterMap_congr fun l _ => ?_
  split
  · rfl
  · next hl =>
      rw [decide_eq_true_eq, not_not] at hl
      rw [hl]
      rfl

/-! ## The numbers behind an empty line -/

/-- A counted line where one more line stands behind the first `n`. -/
def CountedLine.movedBehind (n : Nat) (c : CountedLine) : CountedLine :=
  if c.number ≤ n then c else { c with number := c.number + 1 }

theorem number_lt_of_mem_countFrom {c : CountedLine} {first : Nat} {lines : List Line}
    (hc : c ∈ countFrom first unit drops lines) : c.number < first + lines.length := by
  obtain ⟨i, l, hl, h⟩ := mem_countFrom.mp hc
  obtain ⟨hi, -⟩ := List.getElem?_eq_some_iff.mp hl
  rw [CountedLine.number_of_ofLine? h]
  omega

theorem countFrom_succ (first : Nat) (lines : List Line) :
    countFrom (first + 1) unit drops lines =
      (countFrom first unit drops lines).map fun c => { c with number := c.number + 1 } := by
  have hline : ∀ l n, CountedLine.ofLine? unit drops l (n + 1) =
      (CountedLine.ofLine? unit drops l n).map fun c => { c with number := c.number + 1 } := by
    intro l n
    simp only [CountedLine.ofLine?]
    split <;> rfl
  induction lines generalizing first with
  | nil => rfl
  | cons l rest ih =>
      rw [countFrom_cons, countFrom_cons, List.map_append, ih, hline, Option.toList_map]

/-- An empty line moves the lines behind it by one, and counts for nothing itself. -/
theorem countLines_insert_nil (before after : List Line) :
    countLines unit drops (before ++ [] :: after) =
      (countLines unit drops (before ++ after)).map (·.movedBehind before.length) := by
  have hbefore : (countFrom 1 unit drops before).map (·.movedBehind before.length) =
      countFrom 1 unit drops before := by
    conv_rhs => rw [← List.map_id (countFrom 1 unit drops before)]
    refine List.map_congr_left fun c hc => if_pos ?_
    have hlt := number_lt_of_mem_countFrom hc
    omega
  have hafter : (countFrom (1 + before.length) unit drops after).map
        (·.movedBehind before.length) =
      countFrom (1 + before.length + 1) unit drops after := by
    rw [countFrom_succ]
    refine List.map_congr_left fun c hc => if_neg ?_
    have hle := le_number_of_mem_countFrom hc
    push_cast at hle
    omega
  rw [countLines_eq_countFrom, countLines_eq_countFrom, countFrom_append, countFrom_append,
    countFrom_cons, List.map_append, hbefore, hafter]
  rfl

/-- A text with one empty line more has the same indentation, and the same lines count with the same
depths and contents; those behind the empty line have moved by one and the others not at all. Texts
that are the same without their empty lines, however many those are and wherever they stand, have
the same indentation, the same depths and contents in order, and all that a report tells but the
lines is the same, or they are refused with the same error. -/
theorem listing_emptyLines (o : AnalysisOptions) :
    let drops := Comment.drops o.comments
    let listing := Listing.ofText drops
    (∀ (n : Nat) (text text' : String), AddsEmptyLine n text text' →
        (listing text').indent = (listing text).indent
          ∧ (listing text').lines = (listing text).lines.map (·.movedBehind n))
      ∧ ∀ text text' : String,
          (linesOf text).filter (· ≠ []) = (linesOf text').filter (· ≠ []) →
            (listing text).indent = (listing text').indent
              ∧ (listing text).lines.map CountedLine.measured =
                  (listing text').lines.map CountedLine.measured
              ∧ (analyzeText text o).map (·.report.figures) =
                  (analyzeText text' o).map (·.report.figures) := by
  intro drops listing
  have hindent : ∀ text text' : String,
      (linesOf text).filter (· ≠ []) = (linesOf text').filter (· ≠ []) →
        (listing text).indent = (listing text').indent := by
    intro text text' h
    show Indent.detect (linesOf text) = Indent.detect (linesOf text')
    rw [← Indent.detect_filter_ne_nil, h, Indent.detect_filter_ne_nil]
  refine ⟨fun n text text' h => ?_, fun text text' h => ?_⟩
  · obtain ⟨before, after, hlines, hlines', rfl⟩ := h.exists_lines
    have hsame : (listing text').indent = (listing text).indent := by
      refine hindent text' text ?_
      rw [hlines, hlines', List.filter_append, List.filter_append]
      rfl
    refine ⟨hsame, ?_⟩
    show countLines (listing text').indent.unit drops (linesOf text') =
      (countLines (listing text).indent.unit drops (linesOf text)).map _
    rw [hsame, hlines, hlines']
    exact countLines_insert_nil before after
  · have hsame := hindent text text' h
    have hmeasured : (listing text).lines.map CountedLine.measured =
        (listing text').lines.map CountedLine.measured := by
      show (countFrom 1 (listing text).indent.unit drops (linesOf text)).map _ =
        (countFrom 1 (listing text').indent.unit drops (linesOf text')).map _
      rw [hsame, ← map_measured_filter_ne_nil 1, h, map_measured_filter_ne_nil]
    refine ⟨hsame, hmeasured, Listing.figures_of_depths_eq ?_ .text o⟩
    rw [Listing.depths_eq_map_measured, Listing.depths_eq_map_measured, hmeasured]

/-- An empty line between two leads of two, the second of which still repeats the first; and two
texts of which one has it twice and ends with another. -/
theorem listing_emptyLines_between :
    let o : AnalysisOptions := {}
    let listing := Listing.ofText (Comment.drops o.comments)
    AddsEmptyLine 1 ("  a" ++ "\n" ++ "  b") ("  a" ++ "\n" ++ "\n" ++ "  b")
      ∧ (listing ("  a" ++ "\n" ++ "\n" ++ "  b")).lines =
          (listing ("  a" ++ "\n" ++ "  b")).lines.map (·.movedBehind 1)
      ∧ (linesOf "  a\n  b").filter (· ≠ []) = (linesOf "  a\n\n\n  b\n").filter (· ≠ [])
      ∧ (analyzeText "  a\n  b" o).map (·.report.figures) =
          (analyzeText "  a\n\n\n  b\n" o).map (·.report.figures) := by
  intro o listing
  have hadds : AddsEmptyLine 1 ("  a" ++ "\n" ++ "  b") ("  a" ++ "\n" ++ "\n" ++ "  b") :=
    .between "  a" "  b"
  have hsame : (linesOf "  a\n  b").filter (· ≠ []) =
      (linesOf "  a\n\n\n  b\n").filter (· ≠ []) := by
    simp [linesOf, splitLines]
  exact ⟨hadds, ((listing_emptyLines o).1 1 _ _ hadds).2, hsame,
    ((listing_emptyLines o).2 _ _ hsame).2.2⟩

end Nesting
