import Nesting.Proofs.Decimal.Denoting
import Nesting.Proofs.Decimal.Tenths
import Nesting.Proofs.Thresholds

/-!
# The score in a reason

A score is written with one decimal. What is written denotes the tenth nearest to the exact value of
the score (`exists_scoreText?`), for every score below `10 ^ 27`, and nothing is written for one
that is not (`scoreText?_eq_none_iff`). Rounding keeps the order and leaves whole numbers alone, so
a score that reaches a whole threshold is not written as a smaller number than that threshold
(`scoreText_isNearestTenth`).
-/

namespace Nesting

open Binary64

variable {s s' : Number} {q r v w : ℚ}

/-! ## Writing a score -/

/-- The sign and the quotient of a finite number. Either it is whole or it has the mantissa of a
double above the line. -/
theorem exists_magnitude? (h : s.value = .finite q) :
    ∃ negative num den, s.magnitude? = some (negative, num, den) ∧ 0 < den
      ∧ signed negative (num / den) = q ∧ (den = 1 ∨ num < 2 ^ 53) := by
  cases s with
  | int n =>
      obtain rfl : (n : ℚ) = q := Extended.finite.inj h
      refine ⟨decide (n < 0), n.natAbs, 1, rfl, one_pos, ?_, Or.inl rfl⟩
      rw [Nat.cast_one, div_one, signed_natAbs]
  | float x =>
      obtain ⟨negative, m, e, hread, rfl⟩ := value_eq_finite_iff.mp h
      refine ⟨negative, _, _, by rw [Number.magnitude?, hread], (quotient_eq m e).1, ?_, ?_⟩
      · rw [quotient_div_eq]
      · have hlt := (isCanonical_of_ofFloat hread).1.lt
        rw [quotient]
        split
        · exact Or.inl rfl
        · exact Or.inr hlt

theorem ten_pow_le_roundDiv_iff {num den : Nat} (hden : 0 < den) (h : den = 1 ∨ num < 2 ^ 53) :
    10 ^ 28 ≤ roundDiv .awayFromZero (num * 10) den ↔ (10 : ℚ) ^ 27 ≤ num / den := by
  rcases h with rfl | hlt
  · rw [roundDiv_one, Nat.cast_one, div_one]
    norm_cast
    omega
  · have hround : roundDiv .awayFromZero (num * 10) den ≤ num * 10 :=
      roundDiv_le_of_le .awayFromZero hden (Nat.le_mul_of_pos_right _ hden)
    have hdiv : (num / den : ℚ) ≤ num := div_le_self (Nat.cast_nonneg _) (by exact_mod_cast hden)
    have hnum : (num : ℚ) < 10 ^ 27 := by
      norm_cast
      omega
    exact iff_of_false (by omega) (not_le.mpr (hdiv.trans_lt hnum))

theorem scoreText?_eq_none_iff (h : s.value = .finite q) :
    scoreText? s = none ↔ 10 ^ 27 ≤ |q| := by
  obtain ⟨negative, num, den, hmagnitude, hden, rfl, hsmall⟩ := exists_magnitude? h
  rw [abs_signed (by positivity), ← ten_pow_le_roundDiv_iff hden hsmall, Nat.mul_comm num,
    scoreText?, hmagnitude]
  simp

theorem exists_scoreText? (h : s.value = .finite q) (hlt : |q| < 10 ^ 27) :
    ∃ text v, scoreText? s = some text ∧ HasPlaces 1 text ∧ Denotes text v
      ∧ IsNearestTenth q v := by
  have hsome := (scoreText?_eq_none_iff h).not.mpr hlt.not_ge
  obtain ⟨negative, num, den, hmagnitude, hden, rfl, -⟩ := exists_magnitude? h
  rw [scoreText?, hmagnitude, Option.bind_some] at hsome ⊢
  dsimp only at hsome ⊢
  split
  · next hlong => exact absurd (if_pos hlong) hsome
  · refine ⟨_, _, rfl, hasPlaces_fixedDigits negative .awayFromZero one_pos num den,
      denotes_fixedDigits negative .awayFromZero one_pos num den, ?_⟩
    rw [pow_one, pow_one]
    exact (isNearestTenth_roundDiv num hden).signed negative

theorem scoreText?_of_infinite (h : s.value = .negInf ∨ s.value = .posInf) :
    scoreText? s = none := by
  cases s with
  | int n => rcases h with h | h <;> cases h
  | float x =>
      have hread : ∃ negative, ofFloat x = .infinite negative := by
        rcases h with h | h
        · exact ⟨true, (value_eq_infinite_iff true).mp h⟩
        · exact ⟨false, (value_eq_infinite_iff false).mp h⟩
      obtain ⟨negative, hread⟩ := hread
      rw [scoreText?, Number.magnitude?, hread]
      rfl

theorem value_of_scoreText?_eq_some {text : String} (h : scoreText? s = some text) :
    ∃ q, s.value = .finite q ∧ |q| < 10 ^ 27 := by
  have hfinite : ∃ q, s.value = .finite q := by
    cases s with
    | int n => exact ⟨n, rfl⟩
    | float x =>
        cases hread : ofFloat x with
        | nan => simp [scoreText?, Number.magnitude?, hread] at h
        | infinite negative => simp [scoreText?, Number.magnitude?, hread] at h
        | finite negative m e => exact ⟨_, value_eq_finite_iff.mpr ⟨negative, m, e, hread, rfl⟩⟩
  obtain ⟨q, hq⟩ := hfinite
  refine ⟨q, hq, ?_⟩
  rw [← not_le, ← scoreText?_eq_none_iff hq, h]
  exact Option.some_ne_none text

theorem isNearestTenth_of_scoreText?_eq_some {text : String} (h : scoreText? s = some text) :
    ∃ q v, s.value = .finite q ∧ Denotes text v ∧ IsNearestTenth q v := by
  obtain ⟨q, hq, hlt⟩ := value_of_scoreText?_eq_some h
  obtain ⟨text', v, htext', -, hv, hnearest⟩ := exists_scoreText? hq hlt
  obtain rfl : text = text' := Option.some.inj (h.symm.trans htext')
  exact ⟨q, v, hq, hv, hnearest⟩

/-! ## What is written is in order -/

/-- Whether a score is written as a numeral that stands for a number. -/
def Number.Writes (s : Number) (v : ℚ) : Prop :=
  ∃ text, scoreText? s = some text ∧ Denotes text v

theorem Number.Writes.isNearestTenth (h : s.Writes v) :
    ∃ q, s.value = .finite q ∧ IsNearestTenth q v := by
  obtain ⟨text, htext, hv⟩ := h
  obtain ⟨q, w, hq, hw, hnearest⟩ := isNearestTenth_of_scoreText?_eq_some htext
  obtain rfl : v = w := hv.unique hw
  exact ⟨q, hq, hnearest⟩

theorem Number.Writes.mono (hv : s.Writes v) (hw : s'.Writes w)
    (h : s.value.le s'.value = true) : v ≤ w := by
  obtain ⟨q, hq, hnearest⟩ := hv.isNearestTenth
  obtain ⟨r, hr, hnearest'⟩ := hw.isNearestTenth
  rw [hq, hr, Extended.le, decide_eq_true_eq] at h
  exact hnearest.mono hnearest' h

/-! ## Reasons -/

/-- The threshold that the reason for a level names. -/
def Thresholds.named? (t : Thresholds) : Level → Option Value
  | .low => none
  | .medium => some t.medium
  | .high => some t.high

theorem reasonFor_eq_ok_iff {level : Level} {u : Number} {reason : String} :
    reasonFor level s u = .ok reason ↔ ∃ text text', scoreText? s = some text
      ∧ thresholdText u = .ok text'
      ∧ reason = "Score " ++ text ++ " exceeds " ++ level.name ++ " threshold (" ++ text' ++ ")" := by
  rw [reasonFor]
  cases scoreText? s with
  | none => simp
  | some text =>
      simp only [bind_eq_ok_iff, pure_eq_ok, Except.ok.injEq, Option.some.injEq]
      constructor
      · rintro ⟨text', h, rfl⟩
        exact ⟨text, text', rfl, h, rfl⟩
      · rintro ⟨_, text', rfl, h, rfl⟩
        exact ⟨text', h, rfl⟩

theorem compared_eq_ok_iff {score threshold : Value} {u : Number} :
    compared score threshold = .ok (s, u) ↔
      score.number? = some s ∧ threshold.number? = some u := by
  rw [compared]
  cases score.number? with
  | none => simp
  | some s' => cases threshold.number? <;> simp

/-- A level above the lowest is given when the threshold that its reason names is reached. -/
theorem reaches_of_assess {score : Value} {t : Thresholds} {a : Assessment}
    (h : assess score t = .ok a) :
    a.level = .low ∨ ∃ v s u, t.named? a.level = some v ∧ compared score v = .ok (s, u)
      ∧ s.reaches u = true ∧ reasonFor a.level s u = .ok a.reason := by
  obtain ⟨⟨s, u⟩, hcompared, h⟩ := bind_eq_ok_iff.mp h
  dsimp only at h
  split at h
  · next hreached =>
      obtain ⟨reason, hreason, ⟨⟩⟩ := bind_eq_ok_iff.mp h
      exact Or.inr ⟨t.high, s, u, rfl, hcompared, hreached, hreason⟩
  · obtain ⟨⟨s, u⟩, hcompared, h⟩ := bind_eq_ok_iff.mp h
    dsimp only at h
    split at h
    · next hreached =>
        obtain ⟨reason, hreason, ⟨⟩⟩ := bind_eq_ok_iff.mp h
        exact Or.inr ⟨t.medium, s, u, rfl, hcompared, hreached, hreason⟩
    · cases h
      exact Or.inl rfl

theorem denotes_thresholdText {u : Number} {text : String} {n : ℤ} (hn : u.value = .finite n)
    (h : thresholdText u = .ok text) : Denotes text n := by
  rw [thresholdText_of_whole hn] at h
  split at h
  · cases h
  · cases h
    exact denotes_intText n

/-- The number written for a score that reaches a whole threshold is not less than the number
written for the threshold, which is the threshold itself. -/
theorem le_of_assess {score v : Value} (hs : score.number? = some s) {t : Thresholds}
    {a : Assessment} (h : assess score t = .ok a) (hv : t.named? a.level = some v) {u : Number}
    (hu : v.number? = some u) {n : ℤ} (hn : u.value = .finite n) :
    ∃ text text' w, a.reason = "Score " ++ text ++ " exceeds " ++ a.level.name ++ " threshold ("
        ++ text' ++ ")"
      ∧ scoreText? s = some text ∧ Denotes text w ∧ Denotes text' n ∧ n ≤ w := by
  rcases reaches_of_assess h with hlow | ⟨v', s', u', hv', hcompared, hreached, hreason⟩
  · rw [hlow] at hv
    cases hv
  · obtain rfl : v = v' := Option.some.inj (hv.symm.trans hv')
    obtain ⟨hs', hu'⟩ := compared_eq_ok_iff.mp hcompared
    obtain rfl : s = s' := Option.some.inj (hs.symm.trans hs')
    obtain rfl : u = u' := Option.some.inj (hu.symm.trans hu')
    obtain ⟨text, text', htext, htext', hreason⟩ := reasonFor_eq_ok_iff.mp hreason
    obtain ⟨q, w, hq, hw, hnearest⟩ := isNearestTenth_of_scoreText?_eq_some htext
    rw [Number.reaches, hn, hq, Extended.le, decide_eq_true_eq] at hreached
    exact ⟨text, text', w, hreason, htext, hw, denotes_thresholdText hn htext',
      (IsNearestTenth.intCast n).mono hnearest hreached⟩

theorem reasonFor_of_scoreText?_eq_none (h : scoreText? s = none) (level : Level) (u : Number) :
    reasonFor level s u = .error .scoreTooLong := by
  rw [reasonFor, h]
  rfl

/-- A score below `10 ^ 27` is written with one decimal as the nearest tenth, in the order of the
scores, and no other score is written, so there is no reason that names it. What a reason says is
true of the numbers as they are written, if the threshold is whole. -/
theorem scoreText_isNearestTenth (score : Value) (hs : score.number? = some s) :
    (∀ q, s.value = .finite q → |q| < 10 ^ 27 →
        ∃ text v, scoreText? s = some text ∧ HasPlaces 1 text ∧ Denotes text v
          ∧ IsNearestTenth q v ∧ |q - v| ≤ 1 / 20)
      ∧ (∀ (s' : Number) (v w : ℚ), s.value.le s'.value = true → s.Writes v → s'.Writes w → v ≤ w)
      ∧ (s.value = .negInf ∨ s.value = .posInf ∨ (∃ q, s.value = .finite q ∧ 10 ^ 27 ≤ |q|) →
          scoreText? s = none ∧ ∀ level u, reasonFor level s u = .error .scoreTooLong)
      ∧ ∀ (t : Thresholds) (a : Assessment) (v : Value) (u : Number) (n : ℤ),
          assess score t = .ok a → t.named? a.level = some v → v.number? = some u →
          u.value = .finite n →
          ∃ text text' w, a.reason = "Score " ++ text ++ " exceeds " ++ a.level.name
              ++ " threshold (" ++ text' ++ ")"
            ∧ scoreText? s = some text ∧ Denotes text w ∧ Denotes text' n ∧ n ≤ w := by
  refine ⟨fun q hq hlt => ?_, fun s' v w hle hv hw => hv.mono hw hle, fun h => ?_,
    fun t a v u n h hv hu hn => le_of_assess hs h hv hu hn⟩
  · obtain ⟨text, v, htext, hplaces, hv, hnearest⟩ := exists_scoreText? hq hlt
    exact ⟨text, v, htext, hplaces, hv, hnearest, hnearest.abs_sub_le⟩
  · have hnone : scoreText? s = none := by
      rcases h with h | h | ⟨q, hq, hle⟩
      · exact scoreText?_of_infinite (Or.inl h)
      · exact scoreText?_of_infinite (Or.inr h)
      · exact (scoreText?_eq_none_iff hq).mpr hle
    exact ⟨hnone, fun level u => reasonFor_of_scoreText?_eq_none hnone level u⟩

/-- A score half way between two tenths, a whole number above it, a score that is not written, and
a whole threshold that is reached. -/
theorem scoreText_isNearestTenth_tie :
    let score : Number := .float 4.25
    (∃ v, scoreText? score = some "4.3" ∧ Denotes "4.3" v ∧ IsNearestTenth (17 / 4) v
        ∧ ∃ w, (Number.int 5).Writes w ∧ v ≤ w)
      ∧ reasonFor .high (.float infinity) (.int 4) = .error .scoreTooLong
      ∧ ∃ a text' w, assess (.float 4.25) ⟨.int 4, .float 10.0⟩ = .ok a ∧ a.level = .medium
        ∧ a.reason = "Score 4.3 exceeds medium threshold (" ++ text' ++ ")"
        ∧ Denotes text' (4 : ℤ) ∧ ((4 : ℤ) : ℚ) ≤ w := by
  intro score
  have htext : scoreText? score = some "4.3" := by decide +kernel
  have hvalue : score.value = .finite (17 / 4) := by decide +kernel
  have hscore : Value.number? (.float 4.25) = some score := rfl
  obtain ⟨hwritten, hmono, -, hreason⟩ := scoreText_isNearestTenth (.float 4.25) hscore
  obtain ⟨hwritten', -⟩ := scoreText_isNearestTenth (.int 5) rfl
  obtain ⟨-, -, hlong, -⟩ := scoreText_isNearestTenth (.float infinity) rfl
  obtain ⟨text, v, hv, -, hdenotes, hnearest, -⟩ := hwritten _ hvalue (by norm_num [abs_of_pos])
  obtain ⟨text', w, hw, -, hdenotes', -⟩ := hwritten' 5 rfl (by norm_num [abs_of_pos])
  obtain rfl : "4.3" = text := Option.some.inj (htext.symm.trans hv)
  have hle : score.value.le (Number.int 5).value = true := by decide +kernel
  have hassess : assess (.float 4.25) ⟨.int 4, .float 10.0⟩ =
      .ok ⟨.medium, "Score 4.3 exceeds medium threshold (4)"⟩ := by rfl
  obtain ⟨text₁, text₂, w', hreason, htext₁, -, hdenotes₂, hle'⟩ :=
    hreason _ _ _ _ 4 hassess rfl rfl rfl
  refine ⟨⟨v, htext, hdenotes, hnearest, w, ⟨text', hw, hdenotes'⟩,
    hmono (.int 5) v w hle ⟨_, htext, hdenotes⟩ ⟨text', hw, hdenotes'⟩⟩,
    (hlong (Or.inr (Or.inl ?_))).2 .high (.int 4), _, text₂, w', hassess, rfl, ?_, hdenotes₂, hle'⟩
  · decide +kernel
  · obtain rfl : "4.3" = text₁ := Option.some.inj (htext.symm.trans htext₁)
    exact hreason

/-- Below zero a tie goes downwards, which is away from zero. -/
example : scoreText? (.float (-0.25)) = some "-0.3" := by decide +kernel

end Nesting
