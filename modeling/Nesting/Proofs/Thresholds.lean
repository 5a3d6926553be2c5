import Nesting.Proofs.Binary64.Values
import Nesting.Proofs.Outcomes
import Nesting.Report

/-!
# Thresholds by what they stand for

A threshold can be a whole number of any size, a double or a truth value, and a grade is put in
words with its text. Both depend on what the threshold stands for alone. A whole number has one
text however it is given (`thresholdText_of_whole`), but for those past the doubles, which are the
only thresholds without a text (`thresholdText_eq_error_iff`). Any other threshold is a double, and
doubles that stand for the same are read alike (`Binary64.ofFloat_eq_of_value_eq`); the zeros with
their two signs are whole.

Choices of thresholds can leave some of them to the defaults. What they are resolved to decides:
`ThresholdChoice.SameNumbers` relates two choices, and `assess_of_sameNumbers` says that no score
and no listing tells them apart.
-/

namespace Nesting

open Binary64

/-! ## The text of a threshold -/

theorem thresholdText_of_whole {t : Number} {n : ℤ} (h : t.value = .finite n) :
    thresholdText t = if tooLarge n then throw .thresholdTooLarge else return intText n := by
  cases t with
  | int k =>
      obtain rfl : k = n := by exact_mod_cast Extended.finite.inj h
      rfl
  | float x =>
      obtain ⟨negative, m, e, hread, hvalue⟩ := value_eq_finite_iff.mp h
      obtain ⟨hcanonical, he⟩ := isCanonical_of_ofFloat hread
      have hden := (quotient_eq m e).1
      have hnum := quotient_of_whole hvalue
      rw [tooLarge_of_whole hvalue hcanonical he, if_neg Bool.false_ne_true, thresholdText, hread]
      dsimp only
      rw [hnum, Nat.mul_mod_left, if_pos rfl, Nat.mul_div_cancel _ hden, Int.ofNat_eq_natCast,
        ← whole_eq hvalue]

theorem thresholdText_float_congr {x y : Float} (h : ofFloat x = ofFloat y) :
    thresholdText (.float x) = thresholdText (.float y) := by
  have hplain : plainText x = plainText y := by rw [plainText, plainText, h]
  rw [thresholdText, thresholdText, h, hplain]

theorem thresholdText_eq_of_value_eq {a b : Number} (h : a.value = b.value) :
    thresholdText a = thresholdText b := by
  by_cases hwhole : ∃ n : ℤ, a.value = .finite n
  · obtain ⟨n, hn⟩ := hwhole
    rw [thresholdText_of_whole hn, thresholdText_of_whole (h.symm.trans hn)]
  · cases a with
    | int n => exact absurd ⟨n, rfl⟩ hwhole
    | float x =>
        cases b with
        | int n => exact absurd ⟨n, h⟩ hwhole
        | float y =>
            refine thresholdText_float_congr (ofFloat_eq_of_value_eq h fun hzero => hwhole ⟨0, ?_⟩)
            rw [hzero, Int.cast_zero]

theorem exists_thresholdText_float (x : Float) : ∃ s, thresholdText (.float x) = .ok s := by
  rw [thresholdText]
  split
  · dsimp only
    split <;> exact ⟨_, rfl⟩
  · exact ⟨_, rfl⟩

theorem thresholdText_eq_error_iff {t : Number} {e : Error} :
    thresholdText t = .error e ↔ e = .thresholdTooLarge ∧ ∃ n, t = .int n ∧ tooLarge n = true := by
  cases t with
  | int n =>
      rw [thresholdText]
      by_cases hn : tooLarge n = true
      · rw [if_pos hn]
        constructor
        · intro h
          cases h
          exact ⟨rfl, n, rfl, hn⟩
        · rintro ⟨rfl, -⟩
          rfl
      · rw [if_neg hn]
        constructor
        · intro h
          cases h
        · rintro ⟨-, n', h, hn'⟩
          cases h
          exact absurd hn' hn
  | float x =>
      obtain ⟨s, hs⟩ := exists_thresholdText_float x
      rw [hs]
      constructor
      · intro h
        cases h
      · rintro ⟨-, n, h, -⟩
        cases h

/-! ## Thresholds that stand for the same -/

theorem reaches_eq_of_value_eq (score : Number) {a b : Number} (h : a.value = b.value) :
    score.reaches a = score.reaches b := by
  rw [Number.reaches, Number.reaches, h]

theorem reasonFor_eq_of_value_eq (level : Level) (score : Number) {a b : Number}
    (h : a.value = b.value) : reasonFor level score a = reasonFor level score b := by
  rw [reasonFor, reasonFor, thresholdText_eq_of_value_eq h]

/-- Whether two values count as numbers that stand for the same. -/
def Value.SameNumber (v w : Value) : Prop :=
  ∃ a b, v.number? = some a ∧ w.number? = some b ∧ a.value = b.value

/-- Whether two pairs of thresholds stand for the same. -/
structure Thresholds.SameNumbers (t t' : Thresholds) : Prop where
  medium : t.medium.SameNumber t'.medium
  high : t.high.SameNumber t'.high

/-- Whether two choices are resolved to thresholds that stand for the same. -/
def ThresholdChoice.SameNumbers (c c' : ThresholdChoice) : Prop :=
  ∃ t t', c.resolve = .ok t ∧ c'.resolve = .ok t' ∧ t.SameNumbers t'

theorem assess_eq_of_sameNumbers {score : Value} {s : Number} (hs : score.number? = some s)
    {t t' : Thresholds} (h : t.SameNumbers t') : assess score t = assess score t' := by
  obtain ⟨medium, medium', hmedium, hmedium', hsame⟩ := h.medium
  obtain ⟨high, high', hhigh, hhigh', hsame'⟩ := h.high
  simp only [assess, compared, hs, hmedium, hmedium', hhigh, hhigh', pure_bind,
    reaches_eq_of_value_eq s hsame, reaches_eq_of_value_eq s hsame',
    reasonFor_eq_of_value_eq _ s hsame, reasonFor_eq_of_value_eq _ s hsame']

/-- Choices of thresholds that stand for the same give every score the same grade with the same
reason, or the same error, and they give every listing the same report. -/
theorem assess_of_sameNumbers {c c' : ThresholdChoice} (h : c.SameNumbers c') :
    (∀ (score : Value) (s : Number), score.number? = some s →
        c.resolve >>= assess score = c'.resolve >>= assess score)
      ∧ ∀ lines tier, Report.build lines tier c = Report.build lines tier c' := by
  obtain ⟨t, t', ht, ht', hsame⟩ := h
  have hassess : ∀ (score : Value) (s : Number), score.number? = some s →
      c.resolve >>= assess score = c'.resolve >>= assess score := by
    intro score s hs
    rw [ht, ht']
    exact assess_eq_of_sameNumbers hs hsame
  refine ⟨hassess, fun lines tier => ?_⟩
  rw [Report.build, Report.build]
  refine congrArg _ (funext fun m => ?_)
  rw [← bind_assoc, ← bind_assoc, hassess (.float m.score) (.float m.score) rfl]

/-- A table that leaves one threshold to the default and gives a truth value for the other, and the
same thresholds given as a whole number and as a double. -/
theorem assess_of_sameNumbers_defaults :
    let table : ThresholdChoice := .entries [("high", .bool true), ("medium", .null)]
    let whole : ThresholdChoice := .given ⟨.int 4, .float 1.0⟩
    table.SameNumbers whole
      ∧ table.resolve >>= assess (.float 2.5) = whole.resolve >>= assess (.float 2.5)
      ∧ ∀ lines tier, Report.build lines tier table = Report.build lines tier whole := by
  intro table whole
  have hsame : table.SameNumbers whole := by
    refine ⟨⟨.float 4.0, .bool true⟩, _, ?_, rfl, ⟨_, _, rfl, rfl, ?_⟩, ⟨_, _, rfl, rfl, ?_⟩⟩
    · rfl
    · decide +kernel
    · decide +kernel
  obtain ⟨hassess, hbuild⟩ := assess_of_sameNumbers hsame
  exact ⟨hsame, hassess (.float 2.5) _ rfl, hbuild⟩

end Nesting
