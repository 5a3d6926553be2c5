import Mathlib.Algebra.Order.Field.Basic
import Nesting.Proofs.ExactMoments
import Nesting.Proofs.Outcomes
import Nesting.Settings

/-!
# Deeper lines and lower thresholds

A listing whose lines get deeper never gets a better grade, nor does one that is graded by lower
thresholds, and a run that failed still fails. Three steps can only go up: from depths to the score
(`score_le_of_atMostAsDeep`), from the score and the two thresholds to the level
(`rank_grade_mono`), and from the level to the failure of the run (`fails_mono`). No order between
the two thresholds is asked for.

The level that `assess` answers is the grade of what score and thresholds stand for
(`assess_of_numbers`), so nothing hangs on how the numbers are given.
-/

namespace Nesting

/-! ## From depths to the score -/

/-- Whether lines with some depths are, in some order, at most as deep as others one by one. -/
def AtMostAsDeep (depths depths' : List Int) : Prop :=
  ∃ reordered, reordered.Perm depths ∧ List.Forall₂ (· ≤ ·) reordered depths'

theorem sumSquares_le {depths depths' : List Int} (hflat : ∀ d ∈ depths, 0 ≤ d)
    (h : List.Forall₂ (· ≤ ·) depths depths') : sumSquares depths ≤ sumSquares depths' := by
  refine List.Forall₂.sum_le_sum ?_
  rw [List.forall₂_map_left_iff, List.forall₂_map_right_iff]
  induction h with
  | nil => exact .nil
  | cons hd _ ih =>
      obtain ⟨hnonneg, hrest⟩ := List.forall_mem_cons.mp hflat
      refine .cons (pow_le_pow_left₀ ?_ ?_ 2) (ih hrest)
      · exact_mod_cast hnonneg
      · exact_mod_cast hd

theorem Moments.score_le_of_atMostAsDeep {depths depths' : List Int}
    (hflat : ∀ d ∈ depths, 0 ≤ d) (h : AtMostAsDeep depths depths') :
    (ofDepths depths : Moments ℚ).score ≤ (ofDepths depths' : Moments ℚ).score := by
  obtain ⟨reordered, hperm, hle⟩ := h
  have hlength : depths.length = depths'.length := by rw [← hperm.length_eq, hle.length_eq]
  have hsum : sumSquares depths ≤ sumSquares depths' := by
    rw [← sumSquares_eq_of_perm hperm]
    exact sumSquares_le (fun d hd => hflat d (hperm.mem_iff.mp hd)) hle
  rw [score_ofDepths, score_ofDepths, hlength]
  exact div_le_div_of_nonneg_right hsum (Nat.cast_nonneg _)

/-! ## From the score to the level -/

theorem Extended.le_trans {a b c : Extended} (hab : a.le b = true) (hbc : b.le c = true) :
    a.le c = true := by
  cases a <;> cases b <;> cases c <;> simp_all [le]
  exact Rat.le_trans hab hbc

namespace Level

/-- A higher score and lower thresholds make no lower level: a threshold that was reached still
is. -/
theorem rank_grade_mono {score score' medium medium' high high' : Extended}
    (hscore : score.le score' = true) (hmedium : medium'.le medium = true)
    (hhigh : high'.le high = true) :
    (grade score medium high).rank ≤ (grade score' medium' high').rank := by
  unfold grade
  by_cases h : high.le score = true
  · have h' : high'.le score' = true := Extended.le_trans (Extended.le_trans hhigh h) hscore
    simp [h, h']
  · by_cases hm : medium.le score = true
    · have hm' : medium'.le score' = true := Extended.le_trans (Extended.le_trans hmedium hm) hscore
      rw [if_neg h, if_pos hm, if_pos hm']
      split <;> decide
    · rw [if_neg h, if_neg hm]
      exact Nat.zero_le _

/-- The reason for a level. -/
def explain (score medium high : Number) : Level → Outcome String
  | .high => reasonFor .high score high
  | .medium => reasonFor .medium score medium
  | .low => return "Score indicates simple, low-nesting code"

end Level

/-- Numbers are graded by what they stand for; only the reason depends on how they are given. -/
theorem assess_of_numbers {score : Value} {t : Thresholds} {s medium high : Number}
    (hs : score.number? = some s) (hmedium : t.medium.number? = some medium)
    (hhigh : t.high.number? = some high) :
    let level := Level.grade s.value medium.value high.value
    assess score t = (⟨level, ·⟩) <$> level.explain s medium high := by
  have hcompared : ∀ {v : Value} {n : Number}, v.number? = some n →
      compared score v = pure (s, n) := by
    intro v n hv
    simp only [compared, hs, hv]
  intro level
  simp only [assess, hcompared hhigh, hcompared hmedium, pure_bind, map_eq_pure_bind,
    Number.reaches, level, Level.grade]
  by_cases h : high.value.le s.value = true
  · simp only [h, if_true]
    rfl
  · by_cases hm : medium.value.le s.value = true
    · simp only [h, hm, if_true]
      rfl
    · simp only [h, hm]
      rfl

/-! ## From the level to the failure -/

theorem Settings.fails_mono {s s' : Settings} {level level' : Level}
    (hbound : ∀ bound ∈ s.failOn, ∃ bound' ∈ s'.failOn, bound'.rank ≤ bound.rank)
    (hlevel : level.rank ≤ level'.rank) (h : s.fails level = true) : s'.fails level' = true := by
  unfold fails at *
  rw [Option.any_eq_true] at *
  obtain ⟨bound, hmem, hreached⟩ := h
  obtain ⟨bound', hmem', hle⟩ := hbound bound hmem
  refine ⟨bound', hmem', ?_⟩
  rw [decide_eq_true_eq] at *
  omega

/-- Of two listings as long as each other, the second at least as deep line by line, when their
lines are put in some order, and of two pairs of thresholds, the second at most as high: the score
of the second listing, the sum of its squared depths by their number, is at least that of the first,
so is its level, and if the first fails a run, so does the second, also when the level of failure is
lowered. The level is the one that scores and thresholds of any kind are given by `assess`. -/
theorem grade_of_atMostAsDeep {depths depths' : List Int} {medium medium' high high' : Number}
    (hflat : ∀ d ∈ depths, 0 ≤ d) (hdeep : AtMostAsDeep depths depths')
    (hmedium : medium'.value.le medium.value = true) (hhigh : high'.value.le high.value = true) :
    let score := fun ds => (Moments.ofDepths ds : Moments ℚ).score
    let level := Level.grade (.finite (score depths)) medium.value high.value
    let level' := Level.grade (.finite (score depths')) medium'.value high'.value
    (∀ ds, score ds = (ds.map fun d : Int => (d : ℚ) ^ 2).sum / ds.length)
      ∧ score depths ≤ score depths'
      ∧ level.rank ≤ level'.rank
      ∧ (∀ s s' : Settings,
          (∀ bound ∈ s.failOn, ∃ bound' ∈ s'.failOn, bound'.rank ≤ bound.rank) →
            s.fails level = true → s'.fails level' = true)
      ∧ ∀ (v : Value) (t : Thresholds) (x m h : Number) (a : Assessment),
          v.number? = some x → t.medium.number? = some m → t.high.number? = some h →
            assess v t = .ok a → a.level = Level.grade x.value m.value h.value := by
  intro score level level'
  have hscore : score depths ≤ score depths' := Moments.score_le_of_atMostAsDeep hflat hdeep
  have hlevel : level.rank ≤ level'.rank :=
    Level.rank_grade_mono (decide_eq_true hscore) hmedium hhigh
  refine ⟨Moments.score_ofDepths, hscore, hlevel, fun s s' hbound => ?_, ?_⟩
  · exact Settings.fails_mono hbound hlevel
  · intro v t x m h a hx hm hh ha
    rw [assess_of_numbers hx hm hh, map_eq_pure_bind, bind_eq_ok_iff] at ha
    obtain ⟨reason, -, ha⟩ := ha
    rw [← Except.ok.inj ha]

/-- Two lines that are put in the other order, and a high threshold that falls below the medium
one. -/
theorem grade_of_atMostAsDeep_two :
    let score := fun ds => (Moments.ofDepths ds : Moments ℚ).score
    let level := Level.grade (.finite (score [3, 0])) (Number.int 2).value (Number.int 10).value
    let level' := Level.grade (.finite (score [1, 3])) (Number.int 2).value (Number.int (-1)).value
    (∀ d ∈ [(3 : Int), 0], 0 ≤ d) ∧ AtMostAsDeep [3, 0] [1, 3]
      ∧ (Number.int 2).value.le (Number.int 2).value = true
      ∧ (Number.int (-1)).value.le (Number.int 10).value = true
      ∧ score [3, 0] ≤ score [1, 3] ∧ level.rank ≤ level'.rank := by
  intro score level level'
  have hflat : ∀ d ∈ [(3 : Int), 0], 0 ≤ d := by decide
  have hdeep : AtMostAsDeep [3, 0] [1, 3] := ⟨[0, 3], by decide, by decide⟩
  have hmedium : (Number.int 2).value.le (Number.int 2).value = true := by decide +kernel
  have hhigh : (Number.int (-1)).value.le (Number.int 10).value = true := by decide +kernel
  obtain ⟨-, hscore, hlevel, -⟩ := grade_of_atMostAsDeep hflat hdeep hmedium hhigh
  exact ⟨hflat, hdeep, hmedium, hhigh, hscore, hlevel⟩

end Nesting
