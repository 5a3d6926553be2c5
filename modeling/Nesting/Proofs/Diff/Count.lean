import Nesting.Diff
import Nesting.Proofs.Counting

/-!
# The count of a diff

The count of a diff runs over all of its lines and moves a number of its own. Here it is shown to be
the count of the lines that were asked for (`counted_ofLines`): one step is the count of one line
(`add_of_passes`, `add_of_not_passes`), and a run from any state adds to it what `countFrom` counts
behind it (`foldl_add`).

The two tests of a line, the one for the count and the one for the step of the indentation, agree
on every line (`isCode_eq_passes`): no other start of a header starts with a mark. So the step is
detected on the lines that are counted when both kinds of change are asked for
(`codeLines_eq_askedLines`).
-/

namespace Nesting

variable {which : Include} {unit : Int} {drops : Line → Bool}

/-! ## The run of the count -/

/-- The lines of a diff that are asked for, with their marks taken off. -/
def Diff.askedLines (which : Include) (diff : List Line) : List Line :=
  (diff.filter which.passes).map (·.drop 1)

theorem Diff.askedLines_cons_of_passes {l : Line} (h : which.passes l = true) (rest : List Line) :
    Diff.askedLines which (l :: rest) = l.drop 1 :: Diff.askedLines which rest := by
  rw [Diff.askedLines, List.filter_cons_of_pos h, List.map_cons]
  rfl

theorem Diff.askedLines_cons_of_not_passes {l : Line} (h : which.passes l = false)
    (rest : List Line) : Diff.askedLines which (l :: rest) = Diff.askedLines which rest := by
  rw [Diff.askedLines, List.filter_cons_of_neg (by simp [h])]
  rfl

namespace DiffCount

theorem reverse_toList (o : Option CountedLine) : o.toList.reverse = o.toList := by
  cases o <;> rfl

theorem add_of_passes {l : Line} (h : which.passes l = true) (s : DiffCount) :
    s.add which unit drops l =
      ⟨s.number + 1,
        (CountedLine.ofLine? unit drops (l.drop 1) (s.number + 1)).toList ++ s.counted⟩ := by
  rw [add, if_pos h]

theorem add_of_not_passes {l : Line} (h : which.passes l = false) (s : DiffCount) :
    s.add which unit drops l = s := by
  rw [add, if_neg (by simp [h])]

/-- A run from any state: the number moves on by the lines asked for, and those of them that count
are put before the ones counted so far. -/
theorem foldl_add (s : DiffCount) (diff : List Line) :
    diff.foldl (add which unit drops) s =
      ⟨s.number + (Diff.askedLines which diff).length,
        (countFrom (s.number + 1) unit drops (Diff.askedLines which diff)).reverse
          ++ s.counted⟩ := by
  induction diff generalizing s with
  | nil => rfl
  | cons l rest ih =>
      rw [List.foldl_cons, ih]
      cases h : which.passes l with
      | false => rw [add_of_not_passes h, Diff.askedLines_cons_of_not_passes h]
      | true =>
          rw [add_of_passes h, Diff.askedLines_cons_of_passes h, countFrom_cons,
            List.length_cons, List.reverse_append, List.append_assoc]
          rw [reverse_toList, Nat.add_assoc, Nat.add_comm 1]

theorem counted_ofLines (diff : List Line) :
    (ofLines which unit drops diff).counted.reverse =
      countLines unit drops (Diff.askedLines which diff) := by
  rw [ofLines, foldl_add, List.append_nil, List.reverse_reverse]
  rfl

end DiffCount

/-! ## The two tests of a line -/

theorem Mark.isOn_iff {m : Mark} {l : Line} : m.isOn l = true ↔ ∃ code, l = m.char :: code := by
  cases l with
  | nil => simp [isOn]
  | cons c code =>
      rw [isOn, List.isPrefixOf_cons_cons, List.isPrefixOf_nil_left, Bool.and_true, beq_iff_eq]
      constructor
      · rintro rfl
        exact ⟨code, rfl⟩
      · rintro ⟨code', heq⟩
        exact (List.cons.inj heq).1.symm

theorem Mark.isOn_char (m : Mark) (code : Line) : m.isOn (m.char :: code) = true :=
  isOn_iff.mpr ⟨code, rfl⟩

/-- No line starts with both marks. -/
theorem Mark.eq_of_isOn {m m' : Mark} {l : Line} (h : m.isOn l = true) (h' : m'.isOn l = true) :
    m = m' := by
  obtain ⟨code, rfl⟩ := isOn_iff.mp h
  obtain ⟨code', heq⟩ := isOn_iff.mp h'
  have hchar : m.char = m'.char := (List.cons.inj heq).1
  cases m <;> cases m' <;> first | rfl | exact absurd hchar (by decide)

namespace Diff

/-- A line with a mark is a header just when it names one of the files: no other start of a header
starts with a mark. -/
theorem isHeader_of_isOn {m : Mark} {l : Line} (h : m.isOn l = true) :
    isHeader l = fileStarts.any (·.isPrefixOf l) := by
  obtain ⟨code, rfl⟩ := Mark.isOn_iff.mp h
  cases m <;> simp [isHeader, headerStarts, fileStarts, Mark.char, List.isPrefixOf_cons_cons]

theorem isCode_eq_passes (l : Line) :
    ((Mark.added.isOn l || Mark.deleted.isOn l) && !fileStarts.any (·.isPrefixOf l)) =
      Include.both.passes l := by
  rw [Include.passes, Include.takes, Bool.and_comm]
  cases hadded : Mark.added.isOn l with
  | true => rw [isHeader_of_isOn hadded]
  | false =>
      cases hdeleted : Mark.deleted.isOn l with
      | true => rw [isHeader_of_isOn hdeleted]
      | false => rw [Bool.or_false, Bool.and_false, Bool.and_false]

theorem codeLines_eq_askedLines (diff : List Line) :
    codeLines diff = askedLines .both diff := by
  rw [codeLines, askedLines, List.filter_congr fun l _ => isCode_eq_passes l]

end Diff

namespace Listing

/-- The listing of a diff counts the lines asked for, with the step of all changed lines. -/
theorem ofDiffLines_eq (which : Include) (drops : Line → Bool) (diff : List Line) :
    ofDiffLines which drops diff =
      ⟨countLines (Indent.detect (Diff.askedLines .both diff)).unit drops
          (Diff.askedLines which diff),
        Indent.detect (Diff.askedLines .both diff)⟩ := by
  rw [ofDiffLines, Diff.codeLines_eq_askedLines, DiffCount.counted_ofLines]

end Listing

end Nesting
