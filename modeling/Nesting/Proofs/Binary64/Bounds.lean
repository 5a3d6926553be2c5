import Nesting.Arithmetic
import Nesting.Proofs.Binary64.Packing

/-!
# Bounds of doubles

`IsUpTo x c` says that a double is a number, not negative, and at most `c`. Bounds that are doubles
themselves are kept by the operations: what is at most such a bound before rounding is at most it
afterwards (`isUpTo_add`, `isUpTo_mul`, `isUpTo_div_nearestInt`). A whole number of up to 53 bits is
the double it stands for exactly (`exists_unpack_nearestInt`), and one of any size is above zero, so
that zero can be divided by it (`zero_div_nearestInt`).
-/

namespace Nesting

namespace Binary64

open Float.Model Float.Model.UnpackedFloat

/-- Whether a double is a number, not negative, and at most a bound. -/
def IsUpTo (x : Float) (c : ℚ) : Prop :=
  ∃ m e, ofFloat x = .finite false m e ∧ magnitude m e ≤ c

variable {x y : Float} {a b c : ℚ}

theorem isDouble_nat {k : Nat} (h : k < 2 ^ 53) (n : Nat) (hn : n ≤ 971) :
    IsDouble (k * 2 ^ n) :=
  ⟨k, n, h, by omega, by omega, by rw [magnitude, zpow_natCast]⟩

theorem isDouble_two_pow {n : Nat} (hn : n ≤ 971) : IsDouble (2 ^ n) := by
  simpa using isDouble_nat (k := 1) (by norm_num) n hn

theorem magnitude_zero (e : Int) : magnitude 0 e = 0 := by
  rw [magnitude, Nat.cast_zero, zero_mul]

theorem magnitude_mul (m n : Nat) (e f : Int) :
    magnitude m e * magnitude n f = magnitude (m * n) (e + f) := by
  rw [magnitude, magnitude, magnitude, zpow_add₀ two_ne_zero]
  push_cast
  ring

theorem magnitude_add (m n : Nat) (e : Int) :
    magnitude m e + magnitude n e = magnitude (m + n) e := by
  rw [magnitude, magnitude, magnitude]
  push_cast
  ring

theorem magnitude_nonneg (m : Nat) (e : Int) : 0 ≤ magnitude m e := by
  rw [magnitude]
  positivity

/-- The quotient that a magnitude is. -/
theorem quotient_eq (m : Nat) (e : Int) :
    0 < (quotient m e).2 ∧ ((quotient m e).1 : ℚ) = magnitude m e * (quotient m e).2 := by
  rw [quotient]
  split
  · next he =>
      have hnat : e = (0 : Int) + (e.toNat : Int) := by omega
      refine ⟨one_pos, ?_⟩
      rw [hnat, magnitude_add_nat, ← hnat, magnitude, zpow_zero]
      simp
  · next he =>
      have hzero : e + ((-e).toNat : Int) = 0 := by omega
      refine ⟨Nat.two_pow_pos _, ?_⟩
      have hscaled : magnitude m 0 = magnitude m e * 2 ^ (-e).toNat := by
        rw [← hzero, magnitude, magnitude, zpow_add₀ two_ne_zero, zpow_natCast]
        ring
      rw [magnitude, zpow_zero, mul_one] at hscaled
      simpa using hscaled

/-! ## Doubles that are not negative -/

/-- What is read as a number that is not negative has been unpacked as one. -/
theorem unpack_of_ofUnpacked {u : UnpackedFloat} {m : Nat} {e : Int}
    (h : ofUnpacked u = .finite false m e) : u = ofMagnitude .positive m e := by
  cases u with
  | infinity s => cases h
  | notANumber => cases h
  | zero s =>
      cases s with
      | negative => cases h
      | positive =>
          cases h
          rfl
  | finite s m' e' hpos =>
      cases s with
      | negative => cases h
      | positive =>
          cases h
          rw [ofMagnitude, dif_neg hpos.ne']

theorem ofUnpacked_ofMagnitude (m : Nat) (e : Int) :
    ∃ e', ofUnpacked (ofMagnitude .positive m e) = .finite false m e' ∧
      magnitude m e' = magnitude m e := by
  rw [ofMagnitude]
  split
  · next h => exact ⟨minExponent, by rw [h]; rfl, by rw [h, magnitude_zero, magnitude_zero]⟩
  · exact ⟨e, rfl, rfl⟩

theorem isUpTo_iff :
    IsUpTo x c ↔ ∃ m e, x.toModel.unpack = ofMagnitude .positive m e ∧ IsCanonical m e ∧
      magnitude m e ≤ c := by
  constructor
  · rintro ⟨m, e, hread, hle⟩
    rw [ofFloat_eq] at hread
    have hunpack := unpack_of_ofUnpacked hread
    by_cases hzero : m = 0
    · subst hzero
      refine ⟨0, -1074, hunpack, ⟨by norm_num, le_rfl, Or.inl rfl⟩, ?_⟩
      rwa [magnitude_zero] at hle ⊢
    · refine ⟨m, e, hunpack, ?_, hle⟩
      rw [ofMagnitude, dif_neg hzero] at hunpack
      exact isCanonical_of_unpack hunpack
  · rintro ⟨m, e, hunpack, -, hle⟩
    obtain ⟨e', hread, hmagnitude⟩ := ofUnpacked_ofMagnitude m e
    exact ⟨m, e', by rw [ofFloat_eq, hunpack, hread], hmagnitude.trans_le hle⟩

/-- A canonical magnitude that is at most a double has an exponent of a double. -/
theorem le_of_magnitude_le {m : Nat} {e : Int} (h : IsCanonical m e) (hc : IsDouble c)
    (hle : magnitude m e ≤ c) : e ≤ 971 := by
  obtain ⟨k, q, hk, -, hq, rfl⟩ := hc
  rcases h.full with he | hfull
  · omega
  · by_contra hlt
    have he : e = q + ((e - q).toNat : Int) := by omega
    rw [he, magnitude_add_nat, magnitude_le_iff] at hle
    have hpow : 2 ^ 1 ≤ 2 ^ (e - q).toNat := Nat.pow_le_pow_right two_pos (by omega)
    have hmul := Nat.mul_le_mul hfull hpow
    omega

/-- What an operation gives that ends in a canonical magnitude. -/
theorem isUpTo_pack {m : Nat} {e : Int} (h : IsCanonical m e) (hc : IsDouble c)
    (hle : magnitude m e ≤ c) : IsUpTo (.ofModel (.pack (ofMagnitude .positive m e))) c :=
  isUpTo_iff.mpr ⟨m, e, unpack_pack h (le_of_magnitude_le h hc hle), h, hle⟩

/-! ## Operations -/

theorem magnitude_decreaseExponent {m : Nat} {e t : Int} (h : t ≤ e) :
    magnitude (decreaseExponent m e t).1 t = magnitude m e := by
  have he : e = t + ((e - t).toNat : Int) := by omega
  conv_rhs => rw [he, magnitude_add_nat]
  rw [decreaseExponent, Nat.shiftLeft_eq]

theorem normalize_natCast {n : Nat} (h : 0 < n) (e : Int) :
    UnpackedFloat.normalize Format.binary64 n e .positive =
      UnpackedFloat.round Format.binary64 .positive n e := by
  rw [UnpackedFloat.normalize, Int.compare_eq_gt.mpr (by omega)]
  rfl

theorem decreaseExponent_pos {m : Nat} (h : 0 < m) (e t : Int) :
    0 < (decreaseExponent m e t).1 := by
  rw [decreaseExponent, Nat.shiftLeft_eq]
  positivity

theorem exists_add {m n : Nat} {e f : Int} (hm : IsCanonical m e) (hn : IsCanonical n f)
    (hc : IsDouble c) (h : magnitude m e + magnitude n f ≤ c) :
    ∃ m' e', UnpackedFloat.add Format.binary64 (ofMagnitude .positive m e)
        (ofMagnitude .positive n f) = ofMagnitude .positive m' e'
      ∧ IsCanonical m' e' ∧ magnitude m' e' ≤ c := by
  by_cases hm0 : m = 0
  · subst hm0
    rw [magnitude_zero, zero_add] at h
    refine ⟨n, f, ?_, hn, h⟩
    rw [ofMagnitude, ofMagnitude, dif_pos rfl]
    split <;> rfl
  · by_cases hn0 : n = 0
    · subst hn0
      rw [magnitude_zero, add_zero] at h
      refine ⟨m, e, ?_, hm, h⟩
      rw [ofMagnitude, ofMagnitude, dif_pos rfl, dif_neg hm0]
      rfl
    · have hpos := decreaseExponent_pos (Nat.pos_of_ne_zero hm0) e (min e f)
      have hsum : UnpackedFloat.add Format.binary64 (ofMagnitude .positive m e)
          (ofMagnitude .positive n f) = round Format.binary64 .positive
            ((decreaseExponent m e (min e f)).1 + (decreaseExponent n f (min e f)).1)
            (min e f) := by
        rw [ofMagnitude, ofMagnitude, dif_neg hm0, dif_neg hn0, ← normalize_natCast (by omega)]
        rfl
      rw [hsum]
      refine exists_round .positive hc (by omega) ?_
      rwa [← magnitude_add, magnitude_decreaseExponent (min_le_left e f),
        magnitude_decreaseExponent (min_le_right e f)]

theorem isUpTo_add (hx : IsUpTo x a) (hy : IsUpTo y b) (hc : IsDouble c) (h : a + b ≤ c) :
    IsUpTo (x + y) c := by
  obtain ⟨m, e, hux, hcx, hmx⟩ := isUpTo_iff.mp hx
  obtain ⟨n, f, huy, hcy, hmy⟩ := isUpTo_iff.mp hy
  obtain ⟨m', e', hsum, hcsum, hmsum⟩ := exists_add hcx hcy hc ((add_le_add hmx hmy).trans h)
  have hadd : x + y = .ofModel (.pack (ofMagnitude .positive m' e')) := by
    rw [← hsum, ← hux, ← huy]
    rfl
  rw [hadd]
  exact isUpTo_pack hcsum hc hmsum

theorem exists_mul {m n : Nat} {e f : Int} (hm : IsCanonical m e) (hn : IsCanonical n f)
    (hc : IsDouble c) (h : magnitude m e * magnitude n f ≤ c) :
    ∃ m' e', UnpackedFloat.mul Format.binary64 (ofMagnitude .positive m e)
        (ofMagnitude .positive n f) = ofMagnitude .positive m' e'
      ∧ IsCanonical m' e' ∧ magnitude m' e' ≤ c := by
  rw [magnitude_mul] at h
  have hzero : magnitude 0 (-1074) ≤ c := by
    rw [magnitude_zero]
    exact (magnitude_nonneg _ _).trans h
  have hzero' : IsCanonical 0 (-1074) := ⟨by norm_num, le_rfl, Or.inl rfl⟩
  by_cases hm0 : m = 0
  · refine ⟨0, -1074, ?_, hzero', hzero⟩
    rw [ofMagnitude, ofMagnitude, dif_pos hm0]
    split <;> rfl
  · by_cases hn0 : n = 0
    · refine ⟨0, -1074, ?_, hzero', hzero⟩
      rw [ofMagnitude, ofMagnitude, dif_neg hm0, dif_pos hn0]
      rfl
    · have hprod : UnpackedFloat.mul Format.binary64 (ofMagnitude .positive m e)
          (ofMagnitude .positive n f) =
            roundWithAccuracy Format.binary64 .positive (m * n) (e + f) .exact := by
        rw [ofMagnitude, ofMagnitude, dif_neg hm0, dif_neg hn0]
        rfl
      rw [hprod]
      refine exists_roundWithAccuracy .positive hc ?_ h fun hne => absurd rfl hne
      -- a product of two that are not both least has bits enough
      have hlog : ∀ k, 2 ^ 52 ≤ k → k ≤ m * n → 52 ≤ (m * n).log2 := fun k hk hkm =>
        (Nat.le_log2 (Nat.mul_ne_zero hm0 hn0)).mpr (hk.trans hkm)
      rw [targetExponent_eq]
      rcases hm.full with he | hfull
      · rcases hn.full with hf | hfull
        · omega
        · have := hlog n hfull (Nat.le_mul_of_pos_left n (Nat.pos_of_ne_zero hm0))
          omega
      · have := hlog m hfull (Nat.le_mul_of_pos_right m (Nat.pos_of_ne_zero hn0))
        omega

theorem isUpTo_mul (hx : IsUpTo x a) (hy : IsUpTo y b) (hc : IsDouble c) (h : a * b ≤ c) :
    IsUpTo (x * y) c := by
  obtain ⟨m, e, hux, hcx, hmx⟩ := isUpTo_iff.mp hx
  obtain ⟨n, f, huy, hcy, hmy⟩ := isUpTo_iff.mp hy
  have hle : magnitude m e * magnitude n f ≤ c :=
    (mul_le_mul hmx hmy (magnitude_nonneg n f) ((magnitude_nonneg m e).trans hmx)).trans h
  obtain ⟨m', e', hprod, hcprod, hmprod⟩ := exists_mul hcx hcy hc hle
  have hmul : x * y = .ofModel (.pack (ofMagnitude .positive m' e')) := by
    rw [← hprod, ← hux, ← huy]
    rfl
  rw [hmul]
  exact isUpTo_pack hcprod hc hmprod

/-- The quotient of mantissas, cut at the unit, with the remainder told by its accuracy. -/
theorem exists_divCore {m n : Nat} (hm : 0 < m) (hn : 0 < n) (e f : Int) :
    ∃ (d : Nat) (t : Int), divCore Format.binary64 m e n f =
        (m * 2 ^ d / n, t, accuracyOfFraction (m * 2 ^ d % n) n)
      ∧ t + f + d = e
      ∧ t ≤ Format.binary64.targetExponent (totalExponent (m * 2 ^ d / n) t) := by
  obtain ⟨t, ht⟩ : ∃ t, min (e - f)
      (Format.binary64.targetExponent (totalExponent m e - totalExponent n f)) = t := ⟨_, rfl⟩
  refine ⟨(e - f - t).toNat, t, ?_, by omega, ?_⟩
  · rw [divCore, ht]
    simp only [Nat.shiftLeft_eq]
  · have htarget : Format.binary64.targetExponent (totalExponent m e - totalExponent n f) =
        max ((m.log2 : Int) + e - n.log2 - f - 53) (-1074) := by
      simp only [Format.targetExponent, totalExponent, Format.mantissaBits, Format.minExponent]
      norm_num
      omega
    rw [targetExponent_eq]
    rw [htarget] at ht
    by_cases hleast : t ≤ -1074
    · omega
    · have hlog : 52 + n.log2 + 1 ≤ m.log2 + (e - f - t).toNat := by omega
      have hquot : 2 ^ 52 ≤ m * 2 ^ (e - f - t).toNat / n := by
        rw [Nat.le_div_iff_mul_le hn]
        calc 2 ^ 52 * n ≤ 2 ^ 52 * 2 ^ (n.log2 + 1) :=
              Nat.mul_le_mul_left _ Nat.lt_log2_self.le
          _ ≤ 2 ^ (m.log2 + (e - f - t).toNat) := by
              rw [← Nat.pow_add]
              exact Nat.pow_le_pow_right two_pos (by omega)
          _ ≤ m * 2 ^ (e - f - t).toNat := by
              rw [Nat.pow_add]
              exact Nat.mul_le_mul_right _ (Nat.log2_self_le hm.ne')
      have := (Nat.le_log2 (by omega)).mpr hquot
      omega

theorem exists_div {m n : Nat} {e f : Int} (hn : 0 < n) (hc : IsDouble c)
    (h : magnitude m e ≤ c * magnitude n f) :
    ∃ m' e', UnpackedFloat.div Format.binary64 (ofMagnitude .positive m e)
        (ofMagnitude .positive n f) = ofMagnitude .positive m' e'
      ∧ IsCanonical m' e' ∧ magnitude m' e' ≤ c := by
  have hpos : 0 < magnitude n f := by
    rw [magnitude]
    positivity
  by_cases hm0 : m = 0
  · refine ⟨0, -1074, ?_, ⟨by norm_num, le_rfl, Or.inl rfl⟩, ?_⟩
    · rw [ofMagnitude, ofMagnitude, dif_pos hm0, dif_neg hn.ne']
      rfl
    · rw [magnitude_zero]
      exact nonneg_of_mul_nonneg_left ((magnitude_nonneg m e).trans h) hpos
  · obtain ⟨d, t, hcore, hd, ht⟩ := exists_divCore (Nat.pos_of_ne_zero hm0) hn e f
    have hquot : UnpackedFloat.div Format.binary64 (ofMagnitude .positive m e)
        (ofMagnitude .positive n f) = roundWithAccuracy Format.binary64 .positive
          (m * 2 ^ d / n) t (accuracyOfFraction (m * 2 ^ d % n) n) := by
      rw [ofMagnitude, ofMagnitude, dif_neg hm0, dif_neg hn.ne', UnpackedFloat.div, hcore]
      rfl
    have hdivisor : magnitude (m * 2 ^ d / n) t * magnitude n f =
        magnitude (m * 2 ^ d / n * n) (t + f) := magnitude_mul _ _ _ _
    have hdividend : magnitude m e = magnitude (m * 2 ^ d) (t + f) := by
      rw [← magnitude_add_nat, hd]
    rw [hquot]
    refine exists_roundWithAccuracy .positive hc ht ?_ fun hne => ?_
    · refine le_of_mul_le_mul_right (le_trans ?_ h) hpos
      rw [hdivisor, hdividend, magnitude_le_iff]
      exact Nat.div_mul_le_self _ _
    · have hrest : m * 2 ^ d % n ≠ 0 := fun hrest =>
        hne (by rw [hrest, accuracyOfFraction, if_pos rfl])
      refine lt_of_mul_lt_mul_right (lt_of_lt_of_le ?_ h) hpos.le
      rw [hdivisor, hdividend, magnitude_lt_iff]
      have := Nat.div_add_mod' (m * 2 ^ d) n
      omega

/-! ## Whole numbers -/

theorem log2_le_of_lt {n : Nat} (hn : 0 < n) (hlt : n < 2 ^ 53) : n.log2 ≤ 52 := by
  have := (Nat.log2_lt hn.ne').mpr hlt
  omega

/-- A whole number that is shifted to 53 bits. -/
theorem mul_two_pow_bounds {n : Nat} (hn : 0 < n) (hlt : n < 2 ^ 53) :
    2 ^ 52 ≤ n * 2 ^ (52 - n.log2) ∧ n * 2 ^ (52 - n.log2) < 2 ^ 53 := by
  have hsplit : n.log2 + (52 - n.log2) = 52 := Nat.add_sub_of_le (log2_le_of_lt hn hlt)
  have hpos : 0 < 2 ^ (52 - n.log2) := by positivity
  constructor
  · calc 2 ^ 52 = 2 ^ n.log2 * 2 ^ (52 - n.log2) := by rw [← Nat.pow_add, hsplit]
      _ ≤ n * 2 ^ (52 - n.log2) := Nat.mul_le_mul_right _ (Nat.log2_self_le hn.ne')
  · calc n * 2 ^ (52 - n.log2) < 2 ^ (n.log2 + 1) * 2 ^ (52 - n.log2) :=
          Nat.mul_lt_mul_of_pos_right Nat.lt_log2_self hpos
      _ = 2 ^ 53 := by rw [← Nat.pow_add, Nat.add_right_comm, hsplit]

theorem log2Quotient_one {n : Nat} (hn : 0 < n) : log2Quotient n 1 = n.log2 := by
  have hone : Nat.log2 1 = 0 := by decide
  simp [log2Quotient, hone, Nat.log2_self_le hn.ne']

theorem nearestBits_one {n : Nat} (hn : 0 < n) (hlt : n < 2 ^ 53) :
    nearestBits n 1 = (n.log2 + 1022) * 2 ^ 52 + n * 2 ^ (52 - n.log2) := by
  have hlog := log2_le_of_lt hn hlt
  have hmantissa := (mul_two_pow_bounds hn hlt).2
  have hmax : max ((n.log2 : Int) - 52) minExponent = n.log2 - 52 := by
    rw [minExponent]
    omega
  rw [nearestBits, if_neg hn.ne', log2Quotient_one hn, hmax]
  dsimp only
  have hm : (if 0 ≤ (n.log2 : Int) - 52 then
      roundDiv .toEven n (1 * Nat.pow 2 ((n.log2 : Int) - 52).toNat)
      else roundDiv .toEven (n * Nat.pow 2 (-((n.log2 : Int) - 52)).toNat) 1) =
        n * 2 ^ (52 - n.log2) := by
    split
    · have hfull : n.log2 = 52 := by omega
      simp [hfull, roundDiv_one]
    · have hshift : (-((n.log2 : Int) - 52)).toNat = 52 - n.log2 := by omega
      rw [roundDiv_one, hshift]
      rfl
  have hq : ((n.log2 : Int) - 52 - minExponent).toNat = n.log2 + 1022 := by
    rw [minExponent]
    omega
  rw [hm, hq]
  simp only [Nat.pow_eq]
  refine Nat.min_eq_left ?_
  omega

theorem nearestBits_pos {n : Nat} (hn : 0 < n) : 0 < nearestBits n 1 := by
  rw [nearestBits, if_neg hn.ne', log2Quotient_one hn]
  dsimp only
  simp only [Nat.pow_eq]
  refine Nat.lt_min.mpr ⟨Nat.add_pos_right _ ?_, by norm_num⟩
  split
  · next hq =>
      have hshift : (max ((n.log2 : Int) - 52) minExponent).toNat ≤ n.log2 := by
        rw [minExponent] at *
        omega
      have hden : 1 * 2 ^ (max ((n.log2 : Int) - 52) minExponent).toNat ≤ n := by
        rw [Nat.one_mul]
        exact (Nat.pow_le_pow_right two_pos hshift).trans (Nat.log2_self_le hn.ne')
      exact roundDiv_pos .toEven (by positivity) hden
  · rw [roundDiv_one]
    positivity

/-- A whole number up to some finite double is not too large for a double. -/
theorem tooLarge_eq_false_of_le {n : Int} {e : Nat} (he : e ≤ 971)
    (h : n.natAbs ≤ (2 ^ 53 - 1) * 2 ^ e) : tooLarge n = false := by
  rw [tooLarge, beq_eq_false_iff_ne]
  refine Nat.ne_of_lt ?_
  generalize n.natAbs = k at h
  by_cases hlt : k < 2 ^ 53
  · rcases Nat.eq_zero_or_pos k with rfl | hpos
    · decide
    · have hlog := log2_le_of_lt hpos hlt
      have hmantissa := (mul_two_pow_bounds hpos hlt).2
      rw [nearestBits_one hpos hlt]
      simp only [Nat.pow_eq]
      omega
  · have hpos : 0 < k := by omega
    have hlog : 53 ≤ k.log2 := (Nat.le_log2 hpos.ne').mpr (by omega)
    have hlog' : k.log2 < 53 + e := by
      refine (Nat.log2_lt hpos.ne').mpr (h.trans_lt ?_)
      rw [Nat.pow_add]
      exact Nat.mul_lt_mul_of_pos_right (by norm_num) (Nat.two_pow_pos e)
    have hq : max (log2Quotient k 1 - 52) minExponent = ((k.log2 - 52 : Nat) : Int) := by
      rw [log2Quotient_one hpos, minExponent]
      omega
    have hm : roundDiv .toEven k (2 ^ (k.log2 - 52)) ≤ 2 ^ 53 := by
      refine roundDiv_le_of_le .toEven (Nat.two_pow_pos _) ?_
      rw [← Nat.pow_add, show 53 + (k.log2 - 52) = k.log2 + 1 by omega]
      exact Nat.lt_log2_self.le
    -- with the exponent of that double there is no room for a carry
    have hm' : k.log2 - 52 = e → roundDiv .toEven k (2 ^ (k.log2 - 52)) ≤ 2 ^ 53 - 1 := by
      intro hexponent
      refine roundDiv_le_of_le .toEven (Nat.two_pow_pos _) ?_
      rwa [hexponent]
    rw [nearestBits, if_neg hpos.ne', hq]
    simp only [Nat.pow_eq, if_pos (Int.natCast_nonneg _), Int.toNat_natCast, one_mul, minExponent]
    omega

/-- A whole number of up to 1023 bits is not too large for a double. -/
theorem tooLarge_eq_false {n : Int} {bits : Nat} (hbits : bits ≤ 1023) (h : n.natAbs < 2 ^ bits) :
    tooLarge n = false := by
  refine tooLarge_eq_false_of_le (e := bits - 52) (by omega) (h.le.trans ?_)
  calc 2 ^ bits ≤ 2 ^ (52 + (bits - 52)) := Nat.pow_le_pow_right two_pos (by omega)
    _ = 2 ^ 52 * 2 ^ (bits - 52) := Nat.pow_add 2 52 (bits - 52)
    _ ≤ (2 ^ 53 - 1) * 2 ^ (bits - 52) := Nat.mul_le_mul_right _ (by norm_num)

theorem ofBits_of_parts {b m : Nat} (hb : 0 < b) (hb' : b < 2047) (hm : m < 2 ^ 52) :
    ofBits (b * 2 ^ 52 + m) = .finite false (2 ^ 52 + m) (b - 1075) := by
  have hfraction : (b * 2 ^ 52 + m) % 2 ^ 52 = m := by omega
  have hbiased : (b * 2 ^ 52 + m) / 2 ^ 52 % 2 ^ 11 = b := by omega
  have hsign : (b * 2 ^ 52 + m) / 2 ^ 63 % 2 = 0 := by omega
  simp only [ofBits, Nat.pow_eq, hfraction, hbiased, hsign, if_neg hb'.ne, if_neg hb.ne']
  rfl

/-- A pattern of bits that is read as a canonical magnitude is a double with that magnitude. -/
theorem unpack_ofBits {b m : Nat} {e : Int} (hb : b < 2 ^ 64) (h : IsCanonical m e) (he : e ≤ 971)
    (hread : ofBits b = .finite false m e) :
    (Float.ofBits (UInt64.ofNat b)).toModel.unpack = ofMagnitude .positive m e := by
  have hnat : (UInt64.ofNat b).toBitVec.toNat = b := UInt64.toNat_ofNat_of_lt' hb
  have hunpack : UnpackedFloat.unpack Format.binary64 (UInt64.ofNat b).toBitVec =
      ofMagnitude .positive m e := by
    refine unpack_of_ofUnpacked ?_
    rw [← ofBits_eq, hnat, hread]
  have hbits : Float.ofBits (UInt64.ofNat b) = .ofModel (.pack
      (UnpackedFloat.unpack Format.binary64 (UInt64.ofNat b).toBitVec)) := rfl
  rw [hbits, hunpack]
  exact unpack_pack h he

/-- A pattern of bits above zero and below infinity is read as a canonical magnitude. -/
theorem exists_ofBits {b : Nat} (hpos : 0 < b) (hlt : b < 2047 * 2 ^ 52) :
    ∃ m e, ofBits b = .finite false m e ∧ 0 < m ∧ IsCanonical m e ∧ e ≤ 971 := by
  have hparts : b = b / 2 ^ 52 * 2 ^ 52 + b % 2 ^ 52 := (Nat.div_add_mod' b (2 ^ 52)).symm
  have hfraction : b % 2 ^ 52 < 2 ^ 52 := Nat.mod_lt b (by norm_num)
  rcases Nat.eq_zero_or_pos (b / 2 ^ 52) with hzero | hbiased
  · have hsign : b / 2 ^ 63 % 2 = 0 := by omega
    refine ⟨b, minExponent, ?_, hpos, ⟨by omega, le_rfl, Or.inl rfl⟩, by decide⟩
    rw [hzero] at hparts
    simp only [ofBits, Nat.pow_eq, hzero, hsign]
    rw [if_neg (by norm_num), if_pos (by norm_num), Nat.mod_eq_of_lt (by omega)]
    rfl
  · have hread := ofBits_of_parts hbiased (by omega) hfraction
    rw [← hparts] at hread
    exact ⟨_, _, hread, by omega, ⟨by omega, by omega, Or.inr (by omega)⟩, by omega⟩

theorem nearestInt_natCast (n : Nat) :
    nearestInt n = Float.ofBits (UInt64.ofNat (nearestBits n 1)) := by
  rw [nearestInt, nearest, Int.natAbs_natCast, if_neg (by simp)]
  rfl

/-- A whole number of up to 53 bits is a double. -/
theorem exists_unpack_nearestInt {n : Nat} (hlt : n < 2 ^ 53) :
    ∃ m e, (nearestInt n).toModel.unpack = ofMagnitude .positive m e ∧ IsCanonical m e
      ∧ magnitude m e = n := by
  rcases Nat.eq_zero_or_pos n with rfl | hn
  · refine ⟨0, -1074, rfl, ⟨by norm_num, le_rfl, Or.inl rfl⟩, ?_⟩
    rw [magnitude_zero, Nat.cast_zero]
  · have hlog := log2_le_of_lt hn hlt
    obtain ⟨hfull, hmantissa⟩ := mul_two_pow_bounds hn hlt
    have hbits : nearestBits n 1 =
        (n.log2 + 1023) * 2 ^ 52 + (n * 2 ^ (52 - n.log2) - 2 ^ 52) := by
      rw [nearestBits_one hn hlt]
      omega
    have hexponent : (((n.log2 + 1023 : Nat) : Int) - 1075) = n.log2 - 52 := by omega
    have hcanonical : IsCanonical (n * 2 ^ (52 - n.log2)) (n.log2 - 52) :=
      ⟨hmantissa, by omega, Or.inr hfull⟩
    have hread : ofBits ((n.log2 + 1023) * 2 ^ 52 + (n * 2 ^ (52 - n.log2) - 2 ^ 52)) = _ :=
      ofBits_of_parts (by omega) (by omega) (by omega)
    rw [← hbits, Nat.add_sub_cancel' hfull, hexponent] at hread
    refine ⟨_, _, ?_, hcanonical, ?_⟩
    · rw [nearestInt_natCast]
      exact unpack_ofBits (by omega) hcanonical (by omega) hread
    · rw [← magnitude_add_nat]
      have hzero : (n.log2 : Int) - 52 + ((52 - n.log2 : Nat) : Int) = 0 := by omega
      rw [hzero, magnitude, zpow_zero, mul_one]

theorem isUpTo_nearestInt {n : Nat} (hlt : n < 2 ^ 53) (h : (n : ℚ) ≤ c) :
    IsUpTo (nearestInt n) c := by
  obtain ⟨m, e, hunpack, hcanonical, hvalue⟩ := exists_unpack_nearestInt hlt
  exact isUpTo_iff.mpr ⟨m, e, hunpack, hcanonical, hvalue.trans_le h⟩

theorem isUpTo_div_nearestInt {n : Nat} (hx : IsUpTo x a) (hn : 0 < n) (hlt : n < 2 ^ 53)
    (hc : IsDouble c) (h : a ≤ c * n) : IsUpTo (x / nearestInt n) c := by
  obtain ⟨m, e, hux, -, hmx⟩ := isUpTo_iff.mp hx
  obtain ⟨k, f, huy, hcy, hmy⟩ := exists_unpack_nearestInt hlt
  have hk : 0 < k := by
    refine Nat.pos_of_ne_zero ?_
    rintro rfl
    rw [magnitude_zero] at hmy
    exact hn.ne (by exact_mod_cast hmy)
  obtain ⟨m', e', hquot, hcquot, hmquot⟩ := exists_div hk hc ((hmx.trans h).trans_eq (by rw [hmy]))
  have hdiv : x / nearestInt n = .ofModel (.pack (ofMagnitude .positive m' e')) := by
    rw [← hquot, ← hux, ← huy]
    rfl
  rw [hdiv]
  exact isUpTo_pack hcquot hc hmquot

/-- A whole number above zero is a double above zero, if not infinity. -/
theorem unpack_nearestInt_of_pos {n : Nat} (hn : 0 < n) :
    (nearestInt n).toModel.unpack = .infinity .positive ∨
      ∃ m e, ∃ h : 0 < m, (nearestInt n).toModel.unpack = .finite .positive m e h := by
  have hle : nearestBits n 1 ≤ 2047 * 2 ^ 52 := by
    rw [nearestBits, if_neg hn.ne']
    exact Nat.min_le_right _ _
  rw [nearestInt_natCast]
  rcases Nat.lt_or_eq_of_le hle with hlt | heq
  · obtain ⟨m, e, hread, hm, hcanonical, he⟩ := exists_ofBits (nearestBits_pos hn) hlt
    have hunpack := unpack_ofBits (by omega) hcanonical he hread
    rw [ofMagnitude, dif_neg hm.ne'] at hunpack
    exact Or.inr ⟨m, e, hm, hunpack⟩
  · rw [heq]
    exact Or.inl rfl

/-- Zero divided by a whole number above zero is zero, also where that number is past the
doubles. -/
theorem zero_div_nearestInt {n : Nat} (hn : 0 < n) : (0 : Float) / nearestInt n = 0 := by
  have hdiv : ∀ u, (nearestInt n).toModel.unpack = u → (0 : Float) / nearestInt n =
      .ofModel (.pack (UnpackedFloat.div Format.binary64 (.zero .positive) u)) := by
    rintro u rfl
    rfl
  rcases unpack_nearestInt_of_pos hn with hinf | ⟨m, e, hm, hfinite⟩
  · rw [hdiv _ hinf]
    rfl
  · rw [hdiv _ hfinite]
    rfl

end Binary64

end Nesting
