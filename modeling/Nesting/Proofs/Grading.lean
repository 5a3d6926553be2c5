import Nesting.Proofs.Score
import Nesting.Proofs.ScoreText
import Nesting.Proofs.Settings.Checks

/-!
# Settings that can not explain a grade

The reason for a level names the threshold that was reached, and a whole number past the doubles
can not be named (`thresholdText_eq_error_iff`). No score of a text is that large, so such a
threshold is reached just when it is below all doubles, and then every score reaches it
(`isBelowDoubles_iff`).

`Settings.CannotExplain` says of settings and a score that the threshold that decides is such a
number. This is all that can go wrong with settings and a text that is not too long
(`Settings.analyze_of_length_lt`): depths and scores with too many digits need longer texts, and
thresholds without an order are no settings.
-/

namespace Nesting

open Binary64

/-! ## Thresholds past the doubles -/

/-- Whether a number is a whole number below all doubles. -/
def Number.IsBelowDoubles : Number → Prop
  | .int n => n < 0 ∧ tooLarge n = true
  | .float _ => False

/-- What a double that is bounded stands for. -/
theorem Binary64.IsUpTo.exists_value {x : Float} {c : ℚ} (h : IsUpTo x c) :
    ∃ q : ℚ, (Number.float x).value = .finite q ∧ 0 ≤ q ∧ q ≤ c := by
  obtain ⟨m, e, hread, hle⟩ := h
  exact ⟨magnitude m e, value_eq_finite_iff.mpr ⟨false, m, e, hread, rfl⟩, magnitude_nonneg m e,
    hle⟩

variable {score : Float}

/-- The thresholds that a score reaches but that can not be named. -/
theorem isBelowDoubles_iff (h : IsUpTo score (2 ^ 88)) {t : Number} :
    t.IsBelowDoubles ↔
      (Number.float score).reaches t = true ∧ ∃ n, t = .int n ∧ tooLarge n = true := by
  cases t with
  | float x =>
      constructor
      · exact False.elim
      · rintro ⟨-, n, h', -⟩
        cases h'
  | int n =>
      obtain ⟨q, hvalue, hnonneg, hle⟩ := h.exists_value
      have hreaches : (Number.float score).reaches (.int n) = true ↔ (n : ℚ) ≤ q := by
        rw [Number.reaches, hvalue, Number.value, Extended.le, decide_eq_true_eq]
      rw [hreaches, Number.IsBelowDoubles]
      constructor
      · rintro ⟨hneg, hlarge⟩
        refine ⟨le_trans ?_ hnonneg, n, rfl, hlarge⟩
        exact_mod_cast hneg.le
      · rintro ⟨hreached, n', h', hlarge⟩
        cases h'
        refine ⟨?_, hlarge⟩
        by_contra hpos
        -- a threshold that is not negative is no larger than the score
        have hbound : n ≤ 2 ^ 88 := by exact_mod_cast hreached.trans hle
        have hbits : n.natAbs < 2 ^ 89 := by omega
        rw [tooLarge_eq_false (by norm_num) hbits] at hlarge
        cases hlarge

/-! ## Grading with settings -/

theorem reasonFor_eq_error_iff (h : IsUpTo score (2 ^ 88)) (level : Level) {t : Number}
    {e : Error} : reasonFor level (.float score) t = .error e ↔ thresholdText t = .error e := by
  obtain ⟨q, hvalue, hnonneg, hle⟩ := h.exists_value
  have hlt : |q| < 10 ^ 27 := by
    rw [abs_of_nonneg hnonneg]
    exact hle.trans_lt (by norm_num)
  obtain ⟨s, -, hs, -⟩ := exists_scoreText? hvalue hlt
  rw [reasonFor, hs]
  cases thresholdText t with
  | error e' => rfl
  | ok s' =>
      constructor
      · intro h
        cases h
      · intro h
        cases h

namespace Settings

/-- Whether settings can not give the reason for the level of a score, as the threshold that is
reached is below all doubles. -/
def CannotExplain (s : Settings) (score : Float) : Prop :=
  s.high.IsBelowDoubles ∨
    (Number.float score).reaches s.high = false ∧ s.medium.IsBelowDoubles

theorem compared_numberValue (score : Float) (t : Number) :
    compared (.float score) (numberValue t) = pure (.float score, t) := by
  cases t <;> rfl

/-- The thresholds of settings give every score a grade, if not its reason. -/
theorem assess_thresholds (s : Settings) (score : Float) :
    assess (.float score) s.thresholds =
      if (Number.float score).reaches s.high then
        (⟨.high, ·⟩) <$> reasonFor .high (.float score) s.high
      else if (Number.float score).reaches s.medium then
        (⟨.medium, ·⟩) <$> reasonFor .medium (.float score) s.medium
      else .ok ⟨.low, "Score indicates simple, low-nesting code"⟩ := by
  simp only [assess, thresholds, compared_numberValue, pure_bind, map_eq_pure_bind]
  rfl

theorem assess_eq_error_iff (h : IsUpTo score (2 ^ 88)) (s : Settings) {e : Error} :
    assess (.float score) s.thresholds = .error e ↔
      e = .thresholdTooLarge ∧ s.CannotExplain score := by
  have hreason : ∀ (level : Level) (t : Number),
      (Assessment.mk level) <$> reasonFor level (.float score) t = .error e ↔
        e = .thresholdTooLarge ∧ ∃ n, t = .int n ∧ tooLarge n = true := by
    intro level t
    rw [← thresholdText_eq_error_iff, ← reasonFor_eq_error_iff h level]
    exact map_eq_error_iff
  rw [assess_thresholds, CannotExplain, isBelowDoubles_iff h, isBelowDoubles_iff h]
  cases (Number.float score).reaches s.high with
  | true => simp [hreason]
  | false =>
      cases (Number.float score).reaches s.medium with
      | true => simp [hreason]
      | false => simp

/-! ## Analysing with settings -/

theorem analyzeListing_eq_error_iff (s : Settings) (source : Source) {l : Listing}
    (h : l.Within (2 ^ 44)) {e : Error} :
    analyzeListing source l s.options = .error e ↔
      e = .thresholdTooLarge ∧ s.CannotExplain l.score := by
  rw [← assess_eq_error_iff h.isUpTo_score, Listing.score, analyzeListing, Report.build, options,
    ← Listing.depths, h.measure_eq_ok]
  simp only [bind, Except.bind, ThresholdChoice.resolve, pure_eq_ok]
  cases assess (.float (Measures.ofDepths l.depths).score) s.thresholds <;> simp

theorem exists_analyzeListing (s : Settings) (source : Source) {l : Listing}
    (h : l.Within (2 ^ 44)) (hs : ¬s.CannotExplain l.score) :
    ∃ a, analyzeListing source l s.options = .ok a := by
  cases hresult : analyzeListing source l s.options with
  | error e => exact absurd ((s.analyzeListing_eq_error_iff source h).mp hresult).2 hs
  | ok a => exact ⟨a, rfl⟩

/-- Settings and a text of fewer than `10 ^ 13` characters always have an analysis, and so have the
settings and a diff, unless the threshold that decides is a whole number below all doubles; they
then have none. -/
theorem analyze_of_length_lt (s : Settings) {text : String} (h : text.length < 10 ^ 13) :
    let asText := (Listing.ofText (Comment.drops s.pattern?) text).score
    let asDiff := (Listing.ofDiff s.changes (Comment.drops s.pattern?) text).score
    (¬s.CannotExplain asText → ∃ a, analyzeText text s.options = .ok a)
      ∧ (s.CannotExplain asText → analyzeText text s.options = .error .thresholdTooLarge)
      ∧ (¬s.CannotExplain asDiff → ∃ a, analyzeDiff s.changes text s.options = .ok a)
      ∧ (s.CannotExplain asDiff →
          analyzeDiff s.changes text s.options = .error .thresholdTooLarge) := by
  have hlength : text.length < 2 ^ 44 := h.trans (by norm_num)
  have htext := Listing.within_ofText (Comment.drops s.pattern?) hlength
  have hdiff := Listing.within_ofDiff s.changes (Comment.drops s.pattern?) hlength
  exact ⟨s.exists_analyzeListing .text htext,
    fun hs => (s.analyzeListing_eq_error_iff .text htext).mpr ⟨rfl, hs⟩,
    s.exists_analyzeListing (.diff s.changes) hdiff,
    fun hs => (s.analyzeListing_eq_error_iff (.diff s.changes) hdiff).mpr ⟨rfl, hs⟩⟩

/-- Whole numbers as thresholds, one pair that doubles are compared with and one that is below them
all. -/
theorem analyze_of_length_lt_whole :
    let s : Settings := ⟨.int 4, .int 10, none, Comment.defaultPattern, .bool true, .additions,
      .bool false, .bool false⟩
    let below : Settings := { s with high := .int (-10 ^ 309) }
    "+a\n+  b".length < 10 ^ 13
      ∧ (∃ a, analyzeText "+a\n+  b" s.options = .ok a)
      ∧ (∃ a, analyzeDiff s.changes "+a\n+  b" s.options = .ok a)
      ∧ analyzeText "+a\n+  b" below.options = .error .thresholdTooLarge := by
  intro s below
  have hlength : "+a\n+  b".length < 10 ^ 13 := by decide
  have hs : ∀ score, ¬s.CannotExplain score := by
    rintro score (⟨hneg, -⟩ | ⟨-, hneg, -⟩)
    · exact absurd hneg (by decide)
    · exact absurd hneg (by decide)
  have hbelow : ∀ score, below.CannotExplain score := fun _ =>
    Or.inl ⟨neg_lt_zero.mpr (by positivity), by decide +kernel⟩
  obtain ⟨htext, -, hdiff, -⟩ := s.analyze_of_length_lt hlength
  exact ⟨hlength, htext (hs _), hdiff (hs _), (below.analyze_of_length_lt hlength).2.1 (hbelow _)⟩

/-- Settings that are accepted and have no analysis even of a text of one letter. -/
theorem analyzeText_of_high_below_doubles :
    ∃ s, ofEntries [("high_threshold", .int (-10 ^ 309))] = .ok s
      ∧ analyzeText "a" s.options = .error .thresholdTooLarge := by
  obtain ⟨s, hs⟩ : ∃ s, ofEntries [("high_threshold", .int (-10 ^ 309))] = .ok s :=
    exists_eq_ok_of_isSome (by decide +kernel)
  have hhigh : numberValue s.high = .int (-10 ^ 309) := (ofEntries_eq_ok_iff.mp hs).2.2 .high
  have hlistable := Listing.within_ofText (Comment.drops s.pattern?)
    (by decide : "a".length < 2 ^ 44)
  refine ⟨s, hs, (analyzeListing_eq_error_iff s .text hlistable).mpr ⟨rfl, Or.inl ?_⟩⟩
  cases hnumber : s.high with
  | float x =>
      rw [hnumber] at hhigh
      cases hhigh
  | int n =>
      rw [hnumber] at hhigh
      rw [Value.int.inj hhigh]
      exact ⟨neg_lt_zero.mpr (by positivity), by decide +kernel⟩

end Settings

end Nesting
