import Mathlib

/-!
# Rounding stays below a double

A magnitude is cut to 53 bits and perhaps rounded up. That can not take it past a double that it was
not past before: where it is rounded up, there was room for one unit more in the last place. This is
`exists_roundWithAccuracy`, for a magnitude that is known up to what was cut off before, and
`exists_round` for one that is known exactly. What comes out is *canonical*: it uses all bits, or
has the least exponent.
-/

namespace Nesting

namespace Binary64

open Float.Model Float.Model.UnpackedFloat

/-- A mantissa and an exponent as a double has them: all 53 bits are used, or the exponent is the
least. -/
structure IsCanonical (m : Nat) (e : Int) : Prop where
  lt : m < 2 ^ 53
  least : -1074 ≤ e
  full : e = -1074 ∨ 2 ^ 52 ≤ m

/-- The magnitude of a finite double. -/
def magnitude (m : Nat) (e : Int) : ℚ := m * 2 ^ e

/-- A magnitude of a finite double, as a bound. -/
def IsDouble (c : ℚ) : Prop :=
  ∃ (k : Nat) (q : Int), k < 2 ^ 53 ∧ -1074 ≤ q ∧ q ≤ 971 ∧ c = magnitude k q

/-- The double with a mantissa that may be zero. -/
def ofMagnitude (s : Sign) (m : Nat) (e : Int) : UnpackedFloat :=
  if h : m = 0 then .zero s else .finite s m e (Nat.pos_of_ne_zero h)

/-! ## Magnitudes -/

theorem magnitude_add_nat (m : Nat) (e : Int) (n : Nat) :
    magnitude m (e + n) = magnitude (m * 2 ^ n) e := by
  rw [magnitude, magnitude, zpow_add₀ two_ne_zero, zpow_natCast]
  push_cast
  ring

theorem magnitude_le_iff {m n : Nat} {e : Int} : magnitude m e ≤ magnitude n e ↔ m ≤ n := by
  have hpos : (0 : ℚ) < 2 ^ e := zpow_pos two_pos e
  rw [magnitude, magnitude, mul_le_mul_iff_of_pos_right hpos, Nat.cast_le]

theorem magnitude_lt_iff {m n : Nat} {e : Int} : magnitude m e < magnitude n e ↔ m < n := by
  rw [← not_le, magnitude_le_iff, not_le]

/-- The target of a magnitude: the exponent that leaves it 53 bits, but not less than the least. -/
theorem targetExponent_eq (m : Nat) (e : Int) :
    Format.binary64.targetExponent (totalExponent m e) = max (m.log2 + e - 52) (-1074) := by
  simp only [Format.targetExponent, totalExponent, Format.mantissaBits, Format.minExponent]
  norm_num
  omega

/-! ## Cutting a mantissa -/

/-- Whether nothing was cut off. -/
def IsExact (em : ExtendedMantissa) : Prop :=
  em.roundBit = false ∧ em.stickyBit = false

theorem shiftRight_succ (em : ExtendedMantissa) (n : Nat) :
    em >>> (n + 1) = (em >>> n).shiftRightOne := rfl

theorem mantissa_shiftRight (em : ExtendedMantissa) (n : Nat) :
    (em >>> n).mantissa = em.mantissa / 2 ^ n := by
  induction n with
  | zero => exact (Nat.div_one _).symm
  | succ n ih =>
      rw [shiftRight_succ, ExtendedMantissa.shiftRightOne, ih, Nat.div_div_eq_div_mul,
        Nat.pow_succ]

theorem isExact_shiftRight (em : ExtendedMantissa) (n : Nat) :
    IsExact (em >>> n) ↔ IsExact em ∧ 2 ^ n ∣ em.mantissa := by
  induction n with
  | zero => simp [HShiftRight.hShiftRight, Nat.repeat]
  | succ n ih =>
      have hone : IsExact (em >>> (n + 1)) ↔
          (em.mantissa / 2 ^ n) % 2 = 0 ∧ IsExact (em >>> n) := by
        rw [shiftRight_succ, IsExact, ExtendedMantissa.shiftRightOne, mantissa_shiftRight]
        simp [IsExact]
      have hdvd : 2 ^ (n + 1) ∣ em.mantissa ↔
          2 ^ n ∣ em.mantissa ∧ (em.mantissa / 2 ^ n) % 2 = 0 := by
        rw [Nat.pow_succ, ← Nat.dvd_iff_mod_eq_zero]
        constructor
        · intro h
          exact ⟨dvd_of_mul_right_dvd h, Nat.dvd_div_of_mul_dvd h⟩
        · rintro ⟨h, h'⟩
          exact Nat.mul_dvd_of_dvd_div h h'
      rw [hone, ih, hdvd]
      tauto

/-- Rounding adds at most one, and nothing to what is exact. -/
theorem roundedMantissa_cases (em : ExtendedMantissa) :
    em.roundedMantissa = em.mantissa
      ∨ em.roundedMantissa = em.mantissa + 1 ∧ ¬IsExact em := by
  obtain ⟨m, r, s⟩ := em
  rcases Nat.mod_two_eq_zero_or_one m with h | h <;> cases r <;> cases s <;>
    simp [ExtendedMantissa.roundedMantissa, ExtendedMantissa.accuracy,
      Accuracy.roundToNearestEven, IsExact, h]

theorem isExact_ofMantissaAndAccuracy {m : Nat} {a : Accuracy} :
    IsExact (ExtendedMantissa.ofMantissaAndAccuracy m a) ↔ a = .exact := by
  rcases a with _ | ⟨_ | _ | _⟩ <;> simp [ExtendedMantissa.ofMantissaAndAccuracy, IsExact]

theorem mantissa_ofMantissaAndAccuracy (m : Nat) (a : Accuracy) :
    (ExtendedMantissa.ofMantissaAndAccuracy m a).mantissa = m := by
  rcases a with _ | ⟨_ | _ | _⟩ <;> rfl

/-! ## Rounding -/

section Rounding

variable {m : Nat} {e : Int} {a : Accuracy}

/-- The first shift goes to the target exponent. -/
theorem shiftToTargetExponent_eq {d : Nat}
    (ht : Format.binary64.targetExponent (totalExponent m e) = e + d) :
    shiftToTargetExponent Format.binary64 m e a =
      (ExtendedMantissa.ofMantissaAndAccuracy m a >>> d, e + d) := by
  rw [shiftToTargetExponent, shiftToExponent, ht]
  have hd : (e + (d : Int) - e).toNat = d := by omega
  rw [hd]

/-- The second shift does nothing, unless rounding up has carried into the next bit. -/
theorem shiftToTargetExponent_of_lt (hm : m < 2 ^ 53) (he : -1074 ≤ e) :
    shiftToTargetExponent Format.binary64 m e .exact = (⟨m, false, false⟩, e) := by
  have hlog : m.log2 ≤ 52 := by
    by_cases h : m = 0
    · simp [h]
    · have := (Nat.log2_lt h).mpr hm
      omega
  have hshift : (Format.binary64.targetExponent (totalExponent m e) - e).toNat = 0 := by
    rw [targetExponent_eq]
    omega
  rw [shiftToTargetExponent, shiftToExponent, hshift, Int.natCast_zero, Int.add_zero]
  rfl

theorem shiftToTargetExponent_two_pow (he : -1074 ≤ e) :
    shiftToTargetExponent Format.binary64 (2 ^ 53) e .exact = (⟨2 ^ 52, false, false⟩, e + 1) := by
  have hshift : (Format.binary64.targetExponent (totalExponent (2 ^ 53) e) - e).toNat = 1 := by
    rw [targetExponent_eq, Nat.log2_two_pow]
    omega
  rw [shiftToTargetExponent, shiftToExponent, hshift]
  rfl

/-- What is cut and rounded up is past a double only if it was before. A double on a finer grid than
that of the target is out of reach: it is less than what is cut. -/
theorem magnitude_succ_cut_le {d : Nat} (ht : max (m.log2 + e - 52) (-1074) = e + d)
    {k : Nat} {q : Int} (hk : k < 2 ^ 53) (hq : -1074 ≤ q)
    (hle : magnitude m e ≤ magnitude k q)
    (hup : ¬2 ^ d ∣ m ∨ magnitude m e < magnitude k q) :
    magnitude (m / 2 ^ d + 1) (e + d) ≤ magnitude k q := by
  rcases le_or_gt (e + d) q with htq | hqt
  · have hqt : q = e + d + (q - (e + d)).toNat := by omega
    rw [hqt, magnitude_add_nat, magnitude_add_nat] at hle hup
    rw [hqt, magnitude_add_nat _ (e + d)]
    generalize k * 2 ^ (q - (e + d)).toNat = n at hle hup ⊢
    rw [magnitude_le_iff] at hle ⊢
    rw [magnitude_lt_iff] at hup
    rw [Nat.succ_le_iff, Nat.div_lt_iff_lt_mul (by positivity)]
    rcases hup with hdvd | hlt
    · refine lt_of_le_of_ne hle fun heq => hdvd ?_
      rw [heq]
      exact dvd_mul_left _ _
    · exact hlt
  · exfalso
    have hm : m ≠ 0 := by
      rintro rfl
      simp only [Nat.log2_zero] at ht
      omega
    have hlog : e + (m.log2 : Int) = q + ((53 + (e + d - q - 1).toNat : Nat) : Int) := by omega
    have hcut : magnitude (2 ^ (53 + (e + d - q - 1).toNat)) q ≤ magnitude m e := by
      rw [← Nat.one_mul (2 ^ (53 + _)), ← magnitude_add_nat, ← hlog, magnitude_add_nat,
        Nat.one_mul]
      exact magnitude_le_iff.mpr (Nat.log2_self_le hm)
    have hpow : 2 ^ (53 + (e + d - q - 1).toNat) ≤ k := magnitude_le_iff.mp (hcut.trans hle)
    have hpow' : 2 ^ 53 ≤ 2 ^ (53 + (e + d - q - 1).toNat) :=
      Nat.pow_le_pow_right two_pos (Nat.le_add_right _ _)
    omega

/-- A cut mantissa has at most 53 bits, and all of them above the least exponent. -/
theorem cut_bounds {d : Nat} (ht : max (m.log2 + e - 52) (-1074) = e + d) :
    m / 2 ^ d < 2 ^ 53 ∧ (e + d = -1074 ∨ 2 ^ 52 ≤ m / 2 ^ d) := by
  constructor
  · rw [Nat.div_lt_iff_lt_mul (by positivity), ← Nat.pow_add]
    exact Nat.lt_log2_self.trans_le (Nat.pow_le_pow_right two_pos (by omega))
  · by_cases hleast : e + d = -1074
    · exact Or.inl hleast
    · refine Or.inr ?_
      have hm : m ≠ 0 := by
        rintro rfl
        simp only [Nat.log2_zero] at ht
        omega
      have hlog : m.log2 = 52 + d := by omega
      rw [Nat.le_div_iff_mul_le (by positivity), ← Nat.pow_add, ← hlog]
      exact Nat.log2_self_le hm

/-- A magnitude is rounded to a double that is at most any double it is at most itself. If something
was cut off before, it has to be less than that. -/
theorem exists_roundWithAccuracy (s : Sign) {c : ℚ} (hc : IsDouble c)
    (he : e ≤ Format.binary64.targetExponent (totalExponent m e)) (hle : magnitude m e ≤ c)
    (hlt : a ≠ .exact → magnitude m e < c) :
    ∃ m' e', roundWithAccuracy Format.binary64 s m e a = ofMagnitude s m' e'
      ∧ IsCanonical m' e' ∧ magnitude m' e' ≤ c := by
  obtain ⟨k, q, hk, hq, -, rfl⟩ := hc
  obtain ⟨d, htarget⟩ := Int.le.dest he
  have ht : max (m.log2 + e - 52) (-1074) = e + d := by rw [← targetExponent_eq, htarget]
  obtain ⟨hcut, hfull⟩ := cut_bounds ht
  -- the mantissa behind the first shift, and what is known about its rounding
  generalize hem : ExtendedMantissa.ofMantissaAndAccuracy m a >>> d = em
  have hmantissa : em.mantissa = m / 2 ^ d := by
    rw [← hem, mantissa_shiftRight, mantissa_ofMantissaAndAccuracy]
  have hexact : IsExact em ↔ a = .exact ∧ 2 ^ d ∣ m := by
    rw [← hem, isExact_shiftRight, isExact_ofMantissaAndAccuracy, mantissa_ofMantissaAndAccuracy]
  have hround := roundedMantissa_cases em
  rw [hmantissa] at hround
  have hrle : magnitude em.roundedMantissa (e + d) ≤ magnitude k q := by
    rcases hround with hr | ⟨hr, hinexact⟩
    · rw [hr, magnitude_add_nat]
      exact (magnitude_le_iff.mpr (Nat.div_mul_le_self m _)).trans hle
    · rw [hr]
      refine magnitude_succ_cut_le ht hk hq hle ?_
      by_cases ha : a = .exact
      · exact Or.inl fun hdvd => hinexact (hexact.mpr ⟨ha, hdvd⟩)
      · exact Or.inr (hlt ha)
  rw [roundWithAccuracy, shiftToTargetExponent_eq htarget.symm, hem]
  dsimp only
  rcases lt_or_ge em.roundedMantissa (2 ^ 53) with hsmall | hbig
  · rw [shiftToTargetExponent_of_lt hsmall (by omega)]
    exact ⟨em.roundedMantissa, e + d, rfl, ⟨hsmall, by omega, by omega⟩, hrle⟩
  · have hcarry : em.roundedMantissa = 2 ^ 53 := by omega
    rw [hcarry, shiftToTargetExponent_two_pow (by omega)]
    refine ⟨2 ^ 52, e + d + 1, rfl, ⟨by norm_num, by omega, Or.inr le_rfl⟩, ?_⟩
    rw [hcarry] at hrle
    exact (magnitude_add_nat (2 ^ 52) (e + d) 1).trans_le hrle

/-- A magnitude that is known exactly is rounded to a double that is at most any double it is at
most itself. -/
theorem exists_round (s : Sign) {c : ℚ} (hc : IsDouble c) (hm : 0 < m) (hle : magnitude m e ≤ c) :
    ∃ m' e', round Format.binary64 s m e = ofMagnitude s m' e'
      ∧ IsCanonical m' e' ∧ magnitude m' e' ≤ c := by
  rw [UnpackedFloat.round, decreaseExponent]
  dsimp only
  generalize hn : (e - Format.binary64.targetExponent (totalExponent m e)).toNat = n
  have hshift : magnitude (m <<< n) (e - (n : Int)) = magnitude m e := by
    rw [Nat.shiftLeft_eq, ← magnitude_add_nat, Int.sub_add_cancel]
  refine exists_roundWithAccuracy s hc ?_ (hshift.trans_le hle) fun h => absurd rfl h
  have hlog : m.log2 + n ≤ (m * 2 ^ n).log2 := by
    rw [Nat.le_log2 (Nat.mul_pos hm (by positivity)).ne', Nat.pow_add]
    exact Nat.mul_le_mul_right _ (Nat.log2_self_le hm.ne')
  rw [targetExponent_eq] at hn ⊢
  rw [Nat.shiftLeft_eq]
  omega

end Rounding

end Binary64

end Nesting
