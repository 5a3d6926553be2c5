import Nesting.Analysis
import Nesting.Proofs.Diff.Count

/-!
# Dropping lines leaves the others as they are

A comment pattern decides which lines are left out of a listing, and nothing else. The unit is
detected on all lines, and a line that is left out keeps its number, so that every line that stays
has the number, the depth and the content that it would have without a pattern. Counting the lines
that are not dropped is therefore the same as counting all of them and taking out those whose line
is dropped (`countFrom_eq_filter`); the induction behind it moves the first number along.

`Source.listing` is the listing of a text or of a diff, and `Source.lines` the lines that it
numbers, so that one statement speaks of both (`listing_filter_comments`).
-/

namespace Nesting

variable {unit : Int}

/-! ## Counting and dropping -/

/-- The line that a line was counted from. -/
def CountedLine.origin? (lines : List Line) (c : CountedLine) : Option Line :=
  lines[c.number.toNat - 1]?

theorem CountedLine.toList_ofLine?_eq_filter (drops : Line → Bool) (l : Line) (n : Nat) :
    (ofLine? unit drops l n).toList =
      (ofLine? unit (fun _ => false) l n).toList.filter fun _ => !drops l := by
  by_cases htrim : l.trim = []
  · rw [ofLine?, ofLine?, if_pos (Or.inl htrim), if_pos (Or.inl htrim)]
    rfl
  · cases hdrops : drops l with
    | false => simp [ofLine?, htrim, hdrops]
    | true => simp [ofLine?, htrim, hdrops]

/-- What is counted when lines are dropped is what is counted otherwise, without the lines that were
counted from one that is dropped. -/
theorem countFrom_eq_filter (drops : Line → Bool) (first : Nat) (lines : List Line) :
    countFrom first unit drops lines =
      (countFrom first unit (fun _ => false) lines).filter fun c =>
        lines[c.number.toNat - first]?.any fun l => !drops l := by
  induction lines generalizing first with
  | nil => rfl
  | cons l rest ih =>
      have hrest : (countFrom (first + 1) unit (fun _ => false) rest).filter (fun c =>
            (l :: rest)[c.number.toNat - first]?.any fun l => !drops l) =
          countFrom (first + 1) unit drops rest := by
        rw [ih]
        refine List.filter_congr fun c hc => ?_
        rw [getElem?_number_cons hc]
      have hfirst : (CountedLine.ofLine? unit (fun _ => false) l first).toList.filter (fun c =>
            (l :: rest)[c.number.toNat - first]?.any fun l => !drops l) =
          (CountedLine.ofLine? unit drops l first).toList := by
        rw [CountedLine.toList_ofLine?_eq_filter drops]
        refine List.filter_congr fun c hc => ?_
        have hnumber := CountedLine.number_of_ofLine? (Option.mem_toList.mp hc)
        rw [hnumber, Int.toNat_natCast, Nat.sub_self]
        rfl
      rw [countFrom_cons, countFrom_cons, List.filter_append, hfirst, hrest]

/-- With more lines dropped, fewer are counted. -/
theorem countFrom_sublist {drops drops' : Line → Bool}
    (h : ∀ l, drops l = true → drops' l = true) (first : Nat) (lines : List Line) :
    (countFrom first unit drops' lines).Sublist (countFrom first unit drops lines) := by
  rw [countFrom_eq_filter drops', countFrom_eq_filter drops]
  refine List.monotone_filter_right _ fun c hc => ?_
  cases hl : lines[c.number.toNat - first]? with
  | none =>
      rw [hl] at hc
      cases hc
  | some l =>
      rw [hl, Option.any_some, Bool.not_eq_true'] at hc
      rw [Option.any_some, Bool.not_eq_true']
      exact Bool.eq_false_iff.mpr fun hdrops => Bool.eq_false_iff.mp hc (h l hdrops)

/-! ## Listings of texts and of diffs -/

namespace Source

/-- The lines that are numbered: those of a text, or those of a diff that are asked for, with their
marks taken off. -/
def lines : Source → String → List Line
  | text, s => linesOf s
  | diff which, s => Diff.askedLines which (linesOf s)

def listing : Source → (Line → Bool) → String → Listing
  | text => Listing.ofText
  | diff which => Listing.ofDiff which

/-- The indentation that depths are measured with. -/
def indent : Source → String → Indent
  | text, s => Indent.detect (linesOf s)
  | diff _, s => Indent.detect (Diff.codeLines (linesOf s))

theorem listing_eq (source : Source) (drops : Line → Bool) (s : String) :
    source.listing drops s =
      ⟨countLines (source.indent s).unit drops (source.lines s), source.indent s⟩ := by
  cases source with
  | text => rfl
  | diff which =>
      rw [listing, Listing.ofDiff, Listing.ofDiffLines, DiffCount.counted_ofLines]
      rfl

end Source

/-! ## Comments -/

/-- Without a pattern, the lines that hold something else than blanks are counted, each under its
number. -/
theorem mem_countFrom_keepAll {c : CountedLine} {first : Nat} {lines : List Line} :
    c ∈ countFrom first unit (Comment.drops none) lines ↔
      ∃ i l, lines[i]? = some l ∧ (∃ ch ∈ l, isBlank ch = false)
        ∧ c = ⟨(first + i : Nat), l.depth unit, String.ofList l.trim⟩ := by
  have hblank : ∀ l : Line, l.trim ≠ [] ↔ ∃ ch ∈ l, isBlank ch = false := by
    intro l
    rw [ne_eq, Line.trim_eq_nil_iff]
    simp
  have hkept : ∀ l, Comment.drops none l = false := fun _ => rfl
  simp only [mem_countFrom_iff, hblank, hkept, true_and]

/-- The listing of a text or of a diff, with a pattern for comments and without one. Without one it
holds every line that is not blank, once, under its number. A pattern changes neither the
indentation nor the number, the depth or the content of any line: what is listed with it is what is
listed without it, but for the lines in which the pattern occurs. So a pattern that occurs wherever
another one does lists a part of what the other lists. -/
theorem listing_filter_comments (source : Source) (s : String) :
    let lines := source.lines s
    let listing := fun comments => source.listing (Comment.drops comments) s
    (∀ p : Pattern,
        (listing (some p)).indent = (listing none).indent
          ∧ (listing (some p)).lines = (listing none).lines.filter fun c =>
              (c.origin? lines).any fun l => !p.occursIn l)
      ∧ ((listing none).lines.Pairwise fun c c' => c.number < c'.number)
      ∧ (∀ c, c ∈ (listing none).lines ↔
          ∃ i l, lines[i]? = some l ∧ (∃ ch ∈ l, isBlank ch = false)
            ∧ c = ⟨(1 + i : Nat), l.depth (listing none).unit, String.ofList l.trim⟩)
      ∧ ∀ p q : Pattern, (∀ l, p.occursIn l = true → q.occursIn l = true) →
          (listing (some q)).lines.Sublist (listing (some p)).lines := by
  intro lines listing
  have hlisting : ∀ comments, listing comments =
      ⟨countFrom 1 (source.indent s).unit (Comment.drops comments) lines, source.indent s⟩ :=
    fun comments => source.listing_eq (Comment.drops comments) s
  refine ⟨fun p => ⟨?_, ?_⟩, ?_, fun c => ?_, fun p q h => ?_⟩
  · rw [hlisting (some p), hlisting none]
  · rw [hlisting (some p), hlisting none]
    exact countFrom_eq_filter p.occursIn 1 lines
  · rw [hlisting none]
    exact pairwise_countFrom 1 lines
  · rw [hlisting none]
    exact mem_countFrom_keepAll
  · rw [hlisting (some p), hlisting (some q)]
    exact countFrom_sublist h 1 lines

/-- A diff with a comment, a blank line and a line of code, under the default pattern and under the
empty one, which occurs in every line. -/
theorem listing_filter_comments_empty :
    let diff := textOf ["@@".toList, "+# a".toList, "+".toList, "-    b".toList]
    let listing := fun p => (Source.diff .both).listing (Comment.drops (some p)) diff
    let empty : Pattern := ⟨"", {}, .empty⟩
    (∀ l, Comment.defaultPattern.occursIn l = true → empty.occursIn l = true)
      ∧ (listing empty).lines.Sublist (listing Comment.defaultPattern).lines := by
  intro diff listing empty
  have hempty : ∀ l, empty.occursIn l = true := by
    intro l
    cases l <;> rfl
  have hoccurs : ∀ l, Comment.defaultPattern.occursIn l = true → empty.occursIn l = true :=
    fun l _ => hempty l
  exact ⟨hoccurs, (listing_filter_comments (.diff .both) diff).2.2.2 _ _ hoccurs⟩

end Nesting
