import Nesting.Comment
import Nesting.Proofs.Diff.Count

/-!
# A diff listed as a text

When both kinds of change are asked for, the listing of a diff is the listing of the text that its
code lines make. When one kind is asked for, the same holds of every diff that wraps a text
(`Diff.Wraps`): the lines of the text under one mark, and anywhere between them lines that are
headers or bear no mark. `listing_ofDiff_eq_ofText` states both.

The wrapped text must have no line that starts with the mark itself: under the mark, such a line
can read as a header.
-/

namespace Nesting

/-- The choice of the changes with one mark. -/
def Mark.only : Mark → Include
  | .added => .additions
  | .deleted => .deletions

namespace Diff

/-- A diff wraps a text when its lines are the lines of the text under one mark, and others between
them that are headers or bear no mark. -/
inductive Wraps (mark : Mark) : List Line → List Line → Prop
  | nil : Wraps mark [] []
  | code {l : Line} {text diff : List Line} :
      Wraps mark text diff → Wraps mark (l :: text) ((mark.char :: l) :: diff)
  | other {l : Line} {text diff : List Line} :
      (isHeader l = true ∨ ∀ m : Mark, m.isOn l = false) →
      Wraps mark text diff → Wraps mark text (l :: diff)

end Diff

namespace Include

theorem not_passes_of_isHeader {l : Line} (h : Diff.isHeader l = true) (which : Include) :
    which.passes l = false := by
  rw [passes, h]
  rfl

theorem not_passes_of_no_mark {l : Line} (h : ∀ m : Mark, m.isOn l = false) (which : Include) :
    which.passes l = false := by
  have htakes : which.takes l = false := by
    cases which <;> simp [takes, h]
  rw [passes, htakes, Bool.and_false]

/-- Under a mark, a line that does not start with that mark is no header. -/
theorem passes_char_cons {mark : Mark} {which : Include} {l : Line}
    (htakes : ∀ code, which.takes (mark.char :: code) = true)
    (hdouble : [mark.char, mark.char].isPrefixOf l = false) :
    which.passes (mark.char :: l) = true := by
  have hheader : Diff.isHeader (mark.char :: l) = false := by
    rw [Diff.isHeader_of_isOn (Mark.isOn_char mark l)]
    cases mark <;>
      simpa [Diff.fileStarts, Mark.char, List.isPrefixOf_cons_cons] using hdouble
  rw [passes, hheader, htakes]
  rfl

end Include

namespace Diff

/-- Of a diff that wraps a text, the lines of the text are asked for and no others. -/
theorem Wraps.askedLines {mark : Mark} {which : Include} {text diff : List Line}
    (h : Wraps mark text diff) (htakes : ∀ code, which.takes (mark.char :: code) = true)
    (hdouble : ∀ l ∈ text, [mark.char, mark.char].isPrefixOf l = false) :
    askedLines which diff = text := by
  induction h with
  | nil => rfl
  | code _ ih =>
      obtain ⟨hl, htext⟩ := List.forall_mem_cons.mp hdouble
      rw [askedLines_cons_of_passes (Include.passes_char_cons htakes hl), ih htext]
      rfl
  | other hl _ ih =>
      have hnot : which.passes _ = false :=
        hl.elim (Include.not_passes_of_isHeader · which) (Include.not_passes_of_no_mark · which)
      rw [askedLines_cons_of_not_passes hnot, ih hdouble]

theorem newline_not_mem_codeLines {diff : List Line} (h : ∀ l ∈ diff, '\n' ∉ l) :
    ∀ l ∈ codeLines diff, '\n' ∉ l := by
  intro l hl hm
  obtain ⟨raw, hraw, rfl⟩ := List.mem_map.mp hl
  exact h raw (List.mem_filter.mp hraw).1 (List.mem_of_mem_drop hm)

end Diff

namespace Listing

theorem ofDiffLines_both (drops : Line → Bool) (diff : List Line) :
    ofDiffLines .both drops diff = ofLines drops (Diff.codeLines diff) := by
  rw [ofDiffLines_eq, ← Diff.codeLines_eq_askedLines]
  rfl

theorem ofDiffLines_of_wraps {mark : Mark} (drops : Line → Bool) {text diff : List Line}
    (h : Diff.Wraps mark text diff)
    (hdouble : ∀ l ∈ text, [mark.char, mark.char].isPrefixOf l = false) :
    ofDiffLines mark.only drops diff = ofLines drops text := by
  have hboth : Diff.askedLines .both diff = text :=
    h.askedLines (fun code => by cases mark <;> simp [Include.takes, Mark.isOn, Mark.char]) hdouble
  have honly : Diff.askedLines mark.only diff = text :=
    h.askedLines (fun code => by cases mark <;> exact Mark.isOn_char _ code) hdouble
  rw [ofDiffLines_eq, hboth, honly]
  rfl

end Listing

/-- All changes of a diff are listed as the text of its code lines, which are the lines that are
counted; and the changes of one kind, in a diff that wraps a text, as that text. This is so whatever
lines are dropped. -/
theorem listing_ofDiff_eq_ofText (drops : Line → Bool) :
    (∀ diff : String,
      Listing.ofDiff .both drops diff =
          Listing.ofText drops (textOf (Diff.codeLines (linesOf diff)))
        ∧ Diff.codeLines (linesOf diff) =
            ((linesOf diff).filter Include.both.passes).map (·.drop 1))
      ∧ ∀ (mark : Mark) (text diff : String),
          (∀ l ∈ linesOf text, [mark.char, mark.char].isPrefixOf l = false) →
          Diff.Wraps mark (linesOf text) (linesOf diff) →
          Listing.ofDiff mark.only drops diff = Listing.ofText drops text := by
  refine ⟨fun diff => ⟨?_, Diff.codeLines_eq_askedLines _⟩, fun mark text diff hdouble h => ?_⟩
  · have hcode := Diff.newline_not_mem_codeLines (newline_not_mem_linesOf diff)
    rw [Listing.ofText_textOf drops hcode]
    exact Listing.ofDiffLines_both drops (linesOf diff)
  · exact Listing.ofDiffLines_of_wraps drops h hdouble

/-- Two added lines between a header that starts with their mark, a line of context and an empty
one. -/
theorem listing_ofDiff_eq_ofText_added :
    let text := textOf ["if a:".toList, "  +b".toList]
    let diff := textOf ["+++ f".toList, "+if a:".toList, " c".toList, "+  +b".toList, []]
    (∀ l ∈ linesOf text, [Mark.added.char, Mark.added.char].isPrefixOf l = false)
      ∧ Diff.Wraps .added (linesOf text) (linesOf diff)
      ∧ Listing.ofDiff .additions (Comment.drops none) diff =
          Listing.ofText (Comment.drops none) text := by
  intro text diff
  have htext : linesOf text = ["if a:".toList, "  +b".toList] :=
    linesOf_textOf (by simp) (by simp)
  have hdiff : linesOf diff =
      ["+++ f".toList, "+if a:".toList, " c".toList, "+  +b".toList, []] :=
    linesOf_textOf (by simp) (by simp)
  have hdouble : ∀ l ∈ linesOf text, [Mark.added.char, Mark.added.char].isPrefixOf l = false := by
    rw [htext]
    simp [Mark.char, List.isPrefixOf_cons_cons]
  have hwraps : Diff.Wraps .added (linesOf text) (linesOf diff) := by
    rw [htext, hdiff]
    refine .other (.inl ?_) (.code (.other (.inr ?_) (.code (.other (.inr ?_) .nil))))
    · simp [Diff.isHeader, Diff.headerStarts]
    · intro m
      cases m <;> simp [Mark.isOn, Mark.char, List.isPrefixOf_cons_cons]
    · intro m
      cases m <;> rfl
  exact ⟨hdouble, hwraps,
    (listing_ofDiff_eq_ofText (Comment.drops none)).2 .added text diff hdouble hwraps⟩

end Nesting
