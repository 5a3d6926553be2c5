import Nesting.Comment
import Nesting.Proofs.Histogram
import Nesting.Proofs.Score

/-!
# The sum of the depths

The sum of depths is kept in a word of 64 bits, so it is the exact sum only up to a multiple of
`2 ^ 64`. Which multiple, the order and the grouping of the additions have no part in: however the
words of the depths are added, the last word is the same (`Addition.toInt_total`).

For a text the multiple is zero. A line is no deeper than it is long, so the depths of a text add up
to no more than its length (`sum_depth_countFrom_le`), which a word can hold. `Listing.AddsUp` says
all that follows: the depths can be stored, and the sum that a report tells is exact and agrees with
the lines and with the histogram that it tells beside it.
-/

namespace Nesting

/-! ## Adding words -/

/-- An addition of words of 64 bits, in some order and grouping. -/
inductive Addition where
  | zero
  | word (w : Int64)
  | plus (a b : Addition)

namespace Addition

/-- The words that are added. -/
def words : Addition → List Int64
  | zero => []
  | word w => [w]
  | plus a b => a.words ++ b.words

/-- The word that is left in the end. Each addition wraps around. -/
def total : Addition → Int64
  | zero => 0
  | word w => w
  | plus a b => a.total + b.total

/-- The exact sum of the words that are added. -/
def exact (a : Addition) : Int :=
  (a.words.map Int64.toInt).sum

theorem exact_plus (a b : Addition) : (plus a b).exact = a.exact + b.exact := by
  rw [exact, words, List.map_append, List.sum_append, exact, exact]

/-- However words are added, what is left is their exact sum, wrapped around once. -/
theorem toInt_total (a : Addition) : a.total.toInt = a.exact.bmod (2 ^ 64) := by
  induction a with
  | zero => rfl
  | word w =>
      have hexact : (word w).exact = w.toInt := Int.add_zero _
      rw [hexact]
      exact (Int.bmod_eq_of_le w.le_toInt w.toInt_lt).symm
  | plus a b iha ihb =>
      rw [total, Int64.toInt_add, iha, ihb, Int.bmod_add_bmod, Int.add_bmod_bmod, exact_plus]

/-- A sum of depths is what any addition of their words leaves. -/
theorem toInt_total_eq_depthSum {a : Addition} {depths : List Int}
    (h : (a.words.map Int64.toInt).Perm depths) : a.total.toInt = depthSum depths := by
  rw [toInt_total, exact, h.sum_eq]
  rfl

end Addition

theorem depthSum_eq_bmod (depths : List Int) : depthSum depths = depths.sum.bmod (2 ^ 64) := rfl

/-- A sum that a word can hold is exact. -/
theorem depthSum_eq_sum {depths : List Int} (hnonneg : 0 ≤ depths.sum)
    (hlt : depths.sum < 2 ^ 63) : depthSum depths = depths.sum := by
  rw [depthSum_eq_bmod]
  exact Int.bmod_eq_of_le (by omega) (by omega)

/-! ## Depths and lengths -/

/-- The lines that count are together no deeper than all lines are long. -/
theorem sum_depth_countFrom_le {unit : Int} (hunit : 0 < unit) (drops : Line → Bool) (first : Nat)
    (lines : List Line) :
    ((countFrom first unit drops lines).map (·.depth)).sum ≤ (lines.map List.length).sum := by
  induction lines generalizing first with
  | nil => exact le_rfl
  | cons l rest ih =>
      have hrest := ih (first + 1)
      have hline : (((CountedLine.ofLine? unit drops l first).toList).map (·.depth)).sum ≤
          (l.length : Int) := by
        cases h : CountedLine.ofLine? unit drops l first with
        | none => exact Int.natCast_nonneg _
        | some c =>
            obtain ⟨-, -, rfl⟩ := CountedLine.ofLine?_eq_some_iff.mp h
            have hdepth := (l.depth_bounds hunit).2
            have hmargin := l.length_margin_le
            simp only [Option.toList_some, List.map_cons, List.map_nil, List.sum_cons,
              List.sum_nil]
            omega
      rw [countFrom_cons, List.map_append, List.sum_append, List.map_cons, List.sum_cons,
        Nat.cast_add]
      exact Int.add_le_add hline hrest

theorem sum_length_linesOf_le (text : String) :
    ((linesOf text).map List.length).sum ≤ text.length := by
  have hsum := sum_length_splitLines text.toList
  have hpos := List.length_pos_iff.mpr (splitLines_ne_nil text.toList)
  rw [linesOf, ← String.length_toList]
  omega

/-- Taking lines out of a diff, and their marks off, leaves no more characters. -/
theorem Diff.sum_length_askedLines_le (which : Include) (diff : List Line) :
    ((askedLines which diff).map List.length).sum ≤ (diff.map List.length).sum := by
  induction diff with
  | nil => exact le_rfl
  | cons l rest ih =>
      rw [List.map_cons, List.sum_cons]
      cases h : which.passes l with
      | false =>
          rw [askedLines_cons_of_not_passes h]
          exact ih.trans (Nat.le_add_left _ _)
      | true =>
          rw [askedLines_cons_of_passes h, List.map_cons, List.sum_cons, List.length_drop]
          exact Nat.add_le_add (Nat.sub_le _ _) ih

/-! ## Reports -/

/-- A report tells the measures of the lines that it was made from, and no other lines. -/
theorem Report.tells_of_build {lines : List CountedLine} {tier : Tier}
    {thresholds : ThresholdChoice} {r : Report} (h : build lines tier thresholds = .ok r) :
    (∀ m ∈ r.measures?, measure (lines.map (·.depth)) = .ok m)
      ∧ ∀ told ∈ r.lines?, told = lines := by
  simp only [build, bind_eq_ok_iff] at h
  obtain ⟨m, hm, t, -, a, -, h⟩ := h
  obtain rfl := Except.ok.inj h
  refine ⟨?_, ?_⟩
  · intro m' hm'
    cases tier with
    | brief => cases hm'
    | full =>
        obtain rfl := Option.some.inj hm'
        exact hm
    | listed =>
        obtain rfl := Option.some.inj hm'
        exact hm
  · intro told htold
    cases tier with
    | brief => cases htold
    | full => cases htold
    | listed => exact (Option.some.inj htold).symm

namespace Listing

/-- How the depths of a listing go with the lines that were counted for it, and how its reports tell
their sum. -/
structure AddsUp (l : Listing) (lines : List Line) (size : Nat) : Prop where
  /-- A counted line is no deeper than the margin of the line that it comes from is long. -/
  depth_le : ∀ c ∈ l.lines, ∃ (i : Nat) (line : Line), lines[i]? = some line ∧ c.number = i + 1
    ∧ c.content = String.ofList line.trim ∧ 0 ≤ c.depth ∧ c.depth ≤ line.margin.length
  sum_le : l.depths.sum ≤ size
  measured : ∃ m, measure l.depths = .ok m ∧ m.sum = l.depths.sum
  told : ∀ tier thresholds r, Report.build l.lines tier thresholds = .ok r →
    ∀ m ∈ r.measures?, m.sum = l.depths.sum
      ∧ m.sum = (m.counts.map fun p => p.1 * (p.2 : Int)).sum
      ∧ ∀ told ∈ r.lines?, m.sum = (told.map (·.depth)).sum

variable {l : Listing} {unit : Int} {drops : Line → Bool} {lines : List Line}

theorem exists_of_mem_lines (hl : l.lines = countLines unit drops lines) (hunit : 0 < unit)
    {c : CountedLine} (hc : c ∈ l.lines) :
    ∃ (i : Nat) (line : Line), lines[i]? = some line ∧ c.number = i + 1
      ∧ c.content = String.ofList line.trim ∧ 0 ≤ c.depth ∧ c.depth ≤ line.margin.length := by
  rw [hl, countLines_eq_countFrom] at hc
  obtain ⟨i, line, hline, -, -, rfl⟩ := mem_countFrom_iff.mp hc
  refine ⟨i, line, hline, ?_, rfl, line.depth_bounds hunit⟩
  rw [Nat.cast_add, Nat.cast_one, Int.add_comm]

/-- A listing adds up when its lines are together no longer than a word can tell. -/
theorem addsUp_of_lines (hl : l.lines = countLines unit drops lines) (hunit : 0 < unit)
    {size : Nat} (hlength : (lines.map List.length).sum ≤ size) (hsize : size < 2 ^ 63) :
    l.AddsUp lines size := by
  have hnonneg : ∀ d ∈ l.depths, 0 ≤ d := by
    intro d hd
    obtain ⟨c, hc, rfl⟩ := List.mem_map.mp hd
    obtain ⟨-, -, -, -, -, hpos, -⟩ := exists_of_mem_lines hl hunit hc
    exact hpos
  have hsum : l.depths.sum ≤ size := by
    have hle := sum_depth_countFrom_le hunit drops 1 lines
    rw [depths, hl, countLines_eq_countFrom]
    omega
  have hexact : depthSum l.depths = l.depths.sum :=
    depthSum_eq_sum (List.sum_nonneg hnonneg) (by omega)
  have hmeasured : measure l.depths = .ok (.ofDepths l.depths) := by
    refine measure_eq_ok_iff.mpr ⟨fun d hd => ?_, rfl⟩
    have hpos := hnonneg d hd
    have hle := List.single_le_sum hnonneg d hd
    omega
  refine ⟨fun c hc => exists_of_mem_lines hl hunit hc, hsum, ⟨_, hmeasured, hexact⟩, ?_⟩
  intro tier thresholds r hr m hm
  -- a report tells the measures that were taken, whatever its tier and its thresholds are
  obtain ⟨hmeasures, htold⟩ := Report.tells_of_build hr
  obtain rfl := Except.ok.inj (hmeasured.symm.trans (hmeasures m hm))
  refine ⟨hexact, hexact.trans (sum_mul_depthCounts l.depths).symm, ?_⟩
  intro told h
  rw [htold told h]
  exact hexact

end Listing

/-- The sum of depths that words can hold is a word that agrees with their exact sum up to a
multiple of `2 ^ 64`, and any addition of their words leaves it. For texts and diffs of fewer than
`2 ^ 63` characters, whichever lines are dropped as comments and whichever changes are asked for, it
is the exact sum. -/
theorem depthSum_never_wraps :
    (∀ depths : List Int, (∀ d ∈ depths, -2 ^ 63 ≤ d ∧ d < 2 ^ 63) →
        ∃ m, measure depths = .ok m
          ∧ -2 ^ 63 ≤ m.sum ∧ m.sum < 2 ^ 63 ∧ m.sum % 2 ^ 64 = depths.sum % 2 ^ 64
          ∧ ∀ a : Addition, (a.words.map Int64.toInt).Perm depths → a.total.toInt = m.sum)
      ∧ ∀ (drops : Line → Bool) (text : String), text.length < 2 ^ 63 →
          (Listing.ofText drops text).AddsUp (linesOf text) text.length
          ∧ ∀ which, (Listing.ofDiff which drops text).AddsUp
              (Diff.askedLines which (linesOf text)) text.length := by
  refine ⟨?_, ?_⟩
  · intro depths hdepths
    refine ⟨.ofDepths depths, measure_eq_ok_iff.mpr ⟨hdepths, rfl⟩, ?_, ?_, ?_, ?_⟩
    · exact Int.le_bmod (by decide)
    · exact Int.bmod_lt (by decide)
    · exact Int.bmod_emod
    · intro a ha
      exact Addition.toInt_total_eq_depthSum ha
  · intro drops text hlt
    refine ⟨Listing.addsUp_of_lines rfl (Indent.unit_pos _) (sum_length_linesOf_le text) hlt, ?_⟩
    intro which
    rw [Listing.ofDiff, Listing.ofDiffLines_eq]
    refine Listing.addsUp_of_lines rfl (Indent.unit_pos _) ?_ hlt
    exact (Diff.sum_length_askedLines_le which _).trans (sum_length_linesOf_le text)

/-- Three depths whose words wrap around twice on the way to their sum, and a text with a tab and
spaces that is a diff too. -/
theorem depthSum_never_wraps_twice :
    let a : Addition := .plus (.plus (.word Int64.maxValue) (.word 1)) (.word (-5))
    let depths : List Int := [-5, 2 ^ 63 - 1, 1]
    let text := "+\ta\n+    b\n-c"
    (∀ d ∈ depths, -2 ^ 63 ≤ d ∧ d < 2 ^ 63)
      ∧ (a.words.map Int64.toInt).Perm depths
      ∧ (∃ m, measure depths = .ok m ∧ a.total.toInt = m.sum)
      ∧ text.length < 2 ^ 63
      ∧ (Listing.ofDiff .both (Comment.drops none) text).depths.sum ≤ text.length := by
  intro a depths text
  have hdepths : ∀ d ∈ depths, -2 ^ 63 ≤ d ∧ d < 2 ^ 63 := by decide
  have hperm : (a.words.map Int64.toInt).Perm depths := by decide
  have hlength : text.length < 2 ^ 63 := by decide
  obtain ⟨m, hm, -, -, -, hsum⟩ := depthSum_never_wraps.1 depths hdepths
  obtain ⟨-, hdiff⟩ := depthSum_never_wraps.2 (Comment.drops none) text hlength
  exact ⟨hdepths, hperm, ⟨m, hm, hsum a hperm⟩, hlength, (hdiff .both).sum_le⟩

end Nesting
