import Nesting.Proofs.CommentMarkers
import Nesting.Proofs.Dropping

/-!
# Comment lines start with a marker

With the default pattern, a line is a comment when it starts with a marker behind its blanks. The
blanks at its end are as good as absent, too: no marker holds a blank, so what the line starts with
is left as it is when they are taken away (`startsWithMarker_trim_iff`). Whether a line is a comment
is therefore read off its trimmed content, and stays the same when the line is indented in another
way or trimmed. `isComment_iff_startsWithMarker` says this of the pattern, of lines, and of
listings.
-/

namespace Nesting

/-! ## Blanks at both ends -/

namespace Line

/-- The blanks at the end are taken away behind a start that holds none. -/
theorem trimEnd_append {m : Line} (h : ∀ c ∈ m, isBlank c = false) (rest : Line) :
    trimEnd (m ++ rest) = m ++ trimEnd rest := by
  have hm : m.reverse.dropWhile isBlank = m.reverse := by
    cases hrev : m.reverse with
    | nil => rfl
    | cons c cs =>
        have hc : c ∈ m := List.mem_reverse.mp (hrev ▸ List.mem_cons_self)
        exact List.dropWhile_cons_of_neg (by simp [h c hc])
  rw [trimEnd, trimEnd, List.reverse_append, List.dropWhile_append, hm]
  cases hrest : rest.reverse.dropWhile isBlank with
  | nil => simp
  | cons c cs => simp

theorem trimStart_trim (l : Line) : l.trim.trimStart = l.trim := by
  cases hl : l.trimStart with
  | nil => rw [trim, hl]; rfl
  | cons c rest =>
      have hhead : l.trimStart.head? = some c := by rw [hl]; rfl
      have hc : isBlank c = false := head?_dropWhile_isBlank (Option.mem_def.mpr hhead)
      have htrim : l.trim = c :: trimEnd rest := by
        rw [trim, hl]
        exact trimEnd_append (m := [c]) (by simpa using hc) rest
      rw [htrim, trimStart, List.dropWhile_cons_of_neg (by simp [hc])]

theorem trimEnd_trimEnd (l : Line) : l.trimEnd.trimEnd = l.trimEnd :=
  List.rdropWhile_idempotent isBlank l

theorem trim_trim (l : Line) : l.trim.trim = l.trim := by
  rw [trim, trimStart_trim, trim, trimEnd_trimEnd]

theorem trim_trimStart (l : Line) : l.trimStart.trim = l.trim := by
  rw [trim, trimStart, trimStart, List.dropWhile_idempotent]
  rfl

end Line

/-! ## Markers -/

namespace Comment

/-- Whether a line starts with one of the markers that start a comment. -/
def StartsWithMarker (l : Line) : Prop :=
  ∃ m ∈ ["//", "/*", "*", "#", "<!--", "--"], m.toList <+: l

theorem any_markers_iff (l : Line) :
    markers.any (·.isPrefixOf l) = true ↔ StartsWithMarker l := by
  have hmarkers : markers = ["//", "/*", "*", "#", "<!--", "--"].map String.toList := by decide
  rw [hmarkers, List.any_map, List.any_eq_true]
  simp only [Function.comp_apply, List.isPrefixOf_iff_prefix]
  rfl

theorem occursIn_iff (l : Line) :
    defaultPattern.occursIn l = true ↔ StartsWithMarker l.trimStart := by
  rw [occursIn_defaultPattern, any_markers_iff]

/-- The blanks at the end of a line have no part in the marker that it starts with. -/
theorem startsWithMarker_trim_iff (l : Line) :
    StartsWithMarker l.trim ↔ StartsWithMarker l.trimStart := by
  constructor
  · rintro ⟨m, hm, hprefix⟩
    exact ⟨m, hm, hprefix.trans (Line.trimEnd_prefix l.trimStart)⟩
  · rintro ⟨m, hm, rest, hrest⟩
    have hall : ∀ m ∈ ["//", "/*", "*", "#", "<!--", "--"],
        (m.toList.all fun c => !isBlank c) = true := by
      decide
    have hnot : ∀ c ∈ m.toList, isBlank c = false := by
      simpa only [List.all_eq_true, Bool.not_eq_true'] using hall m hm
    refine ⟨m, hm, Line.trimEnd rest, ?_⟩
    rw [Line.trim, ← hrest, Line.trimEnd_append hnot]

/-- Whether a line is dropped with the default pattern. -/
def isComment : Line → Bool := drops (some defaultPattern)

theorem isComment_iff (l : Line) : isComment l = true ↔ StartsWithMarker l.trim := by
  rw [startsWithMarker_trim_iff, ← occursIn_iff]
  rfl

theorem isComment_congr {l l' : Line} (h : l.trim = l'.trim) : isComment l = isComment l' := by
  rw [Bool.eq_iff_iff, isComment_iff, isComment_iff, h]

end Comment

/-! ## Listings -/

/-- A line that is not blank is listed unless it is dropped. -/
theorem Source.exists_number_iff (source : Source) (drops : Line → Bool) (s : String) {i : Nat}
    {l : Line} (hl : (source.lines s)[i]? = some l) (htrim : l.trim ≠ []) :
    (∃ c ∈ (source.listing drops s).lines, c.number = (1 + i : Nat)) ↔ drops l = false := by
  rw [source.listing_eq]
  constructor
  · rintro ⟨c, hc, hnumber⟩
    obtain ⟨j, l', hl', -, hdrops, rfl⟩ := mem_countFrom_iff.mp hc
    obtain rfl : j = i := by
      have hnumber' : ((1 + j : Nat) : Int) = (1 + i : Nat) := hnumber
      omega
    obtain rfl := Option.some.inj (hl'.symm.trans hl)
    exact hdrops
  · intro hdrops
    exact ⟨_, mem_countFrom_iff.mpr ⟨i, l, hl, htrim, hdrops, rfl⟩, rfl⟩

/-- The default pattern, which is what its source is read as, occurs in a line just when the line,
without the blanks it starts with, starts with a marker. So with the default pattern a line is
dropped just when its trimmed content starts with one, and it is dropped no more and no less when it
is indented by other blanks or trimmed. In a text and in a diff, the lines that are not blank and
that are missing from the listing are those whose trimmed content starts with a marker. -/
theorem isComment_iff_startsWithMarker :
    Pattern.compile "^\\s*(//|/\\*|\\*|#|<!--|--)" = .ok Comment.defaultPattern
      ∧ (∀ l : Line,
          Comment.defaultPattern.occursIn l = true ↔ Comment.StartsWithMarker l.trimStart)
      ∧ (∀ l : Line, Comment.isComment l = true ↔ Comment.StartsWithMarker l.trim)
      ∧ (∀ blanks l : Line, (∀ c ∈ blanks, isBlank c = true) →
          Comment.isComment (blanks ++ l.trimStart) = Comment.isComment l)
      ∧ (∀ l : Line, Comment.isComment l.trim = Comment.isComment l)
      ∧ ∀ (source : Source) (s : String) (i : Nat) (l : Line),
          (source.lines s)[i]? = some l → l.trim ≠ [] →
            ((¬∃ c ∈ (source.listing Comment.isComment s).lines, c.number = (1 + i : Nat)) ↔
              Comment.StartsWithMarker l.trim) := by
  refine ⟨Comment.compile_defaultPattern, Comment.occursIn_iff, Comment.isComment_iff,
    fun blanks l hblanks => ?_, fun l => ?_, fun source s i l hl htrim => ?_⟩
  · refine Comment.isComment_congr ?_
    rw [Line.trim_append hblanks, Line.trim_trimStart]
  · exact Comment.isComment_congr l.trim_trim
  · rw [source.exists_number_iff Comment.isComment s hl htrim, Bool.not_eq_false,
      Comment.isComment_iff]

/-- A comment of markup behind a tab, between a line of code and a line that holds a marker further
on. -/
theorem isComment_iff_startsWithMarker_markup :
    let comment := "\t<!-- b ".toList
    let text := textOf ["a".toList, comment, "c // d".toList]
    (Source.text.lines text)[1]? = some comment
      ∧ Line.trim comment ≠ []
      ∧ ((¬∃ c ∈ (Source.text.listing Comment.isComment text).lines,
            c.number = (1 + 1 : Nat)) ↔
          Comment.StartsWithMarker (Line.trim comment))
      ∧ Comment.isComment ("  ".toList ++ Line.trimStart comment) = Comment.isComment comment := by
  intro comment text
  have hlines : linesOf text = ["a".toList, comment, "c // d".toList] :=
    linesOf_textOf (by simp) (by decide)
  have hline : (Source.text.lines text)[1]? = some comment := by
    rw [Source.lines, hlines]
    rfl
  have htrim : Line.trim comment ≠ [] := by decide
  obtain ⟨-, -, -, hblanks, -, hlisted⟩ := isComment_iff_startsWithMarker
  exact ⟨hline, htrim, hlisted .text text 1 comment hline htrim,
    hblanks "  ".toList comment (List.all_eq_true.mp (by decide))⟩

end Nesting
