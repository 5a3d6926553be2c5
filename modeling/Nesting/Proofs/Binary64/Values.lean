import Nesting.Number
import Nesting.Proofs.Binary64.Bounds

/-!
# The numbers that doubles stand for

A finite double stands for its magnitude with its sign (`value_eq_finite_iff`). Its mantissa and
exponent are canonical, so but for zero, which has two signs, no two finite doubles stand for the
same number: doubles with one value are read alike (`ofFloat_eq_of_value_eq`). One that stands for a
whole number has a quotient that divides (`quotient_of_whole`), and that number is not too large
for a double (`tooLarge_of_whole`).
-/

namespace Nesting

namespace Binary64

variable {x y : Float} {negative negative' : Bool} {m n : Nat} {e f : Int}

/-- A magnitude with a sign. -/
def signed (negative : Bool) (q : ℚ) : ℚ :=
  if negative then -q else q

/-! ## Canonical doubles -/

theorem isCanonical_of_ofFloat (h : ofFloat x = .finite negative m e) :
    IsCanonical m e ∧ e ≤ 971 :=
  isCanonical_of_ofBits h

/-- A canonical magnitude has one mantissa and one exponent. -/
theorem eq_of_magnitude_eq (hm : IsCanonical m e) (hn : IsCanonical n f)
    (h : magnitude m e = magnitude n f) : m = n ∧ e = f := by
  -- of two exponents the larger one would leave no room for the mantissa of the smaller one
  have hle : ∀ {m n : Nat} {e f : Int}, IsCanonical m e → IsCanonical n f →
      magnitude m e = magnitude n f → f ≤ e := by
    intro m n e f hm hn h
    by_contra hlt
    have hf : f = e + ((f - e).toNat : Int) := by omega
    rw [hf, magnitude_add_nat] at h
    have hmn : m = n * 2 ^ (f - e).toNat :=
      le_antisymm (magnitude_le_iff.mp h.le) (magnitude_le_iff.mp h.ge)
    have hleast := hm.least
    have hfull : 2 ^ 52 ≤ n := hn.full.resolve_left (by omega)
    have hpow : 2 ^ 1 ≤ 2 ^ (f - e).toNat := Nat.pow_le_pow_right two_pos (by omega)
    have hmul := Nat.mul_le_mul hfull hpow
    have hlt' := hm.lt
    omega
  obtain rfl : e = f := le_antisymm (hle hn hm h.symm) (hle hm hn h)
  exact ⟨le_antisymm (magnitude_le_iff.mp h.le) (magnitude_le_iff.mp h.ge), rfl⟩

/-! ## Values -/

theorem quotient_div_eq (m : Nat) (e : Int) :
    ((quotient m e).1 / (quotient m e).2 : ℚ) = magnitude m e := by
  obtain ⟨hden, hquotient⟩ := quotient_eq m e
  rw [hquotient, mul_div_cancel_right₀]
  exact_mod_cast hden.ne'

theorem mkRat_quotient (m : Nat) (e : Int) :
    mkRat (quotient m e).1 (quotient m e).2 = magnitude m e := by
  rw [Rat.mkRat_eq_div, Int.cast_natCast, quotient_div_eq]

theorem ofBinary64_finite (negative : Bool) (m : Nat) (e : Int) :
    Extended.ofBinary64 (.finite negative m e) = .finite (signed negative (magnitude m e)) := by
  simp only [Extended.ofBinary64, mkRat_quotient, signed]

theorem ofBinary64_infinite (negative : Bool) :
    Extended.ofBinary64 (.infinite negative) = if negative then .negInf else .posInf := rfl

theorem value_eq_nan_iff : (Number.float x).value = .nan ↔ ofFloat x = .nan := by
  rw [Number.value]
  cases ofFloat x with
  | nan => simp [Extended.ofBinary64]
  | infinite negative => cases negative <;> simp [ofBinary64_infinite]
  | finite negative m e => simp [ofBinary64_finite]

theorem value_eq_infinite_iff (negative : Bool) :
    (Number.float x).value = (if negative then .negInf else .posInf) ↔
      ofFloat x = .infinite negative := by
  rw [Number.value]
  cases ofFloat x with
  | nan => cases negative <;> simp [Extended.ofBinary64]
  | infinite negative' => cases negative <;> cases negative' <;> simp [ofBinary64_infinite]
  | finite negative' m e => cases negative <;> simp [ofBinary64_finite]

theorem value_eq_finite_iff {q : ℚ} :
    (Number.float x).value = .finite q ↔
      ∃ negative m e, ofFloat x = .finite negative m e ∧ signed negative (magnitude m e) = q := by
  rw [Number.value]
  cases ofFloat x with
  | nan => simp [Extended.ofBinary64]
  | infinite negative => cases negative <;> simp [ofBinary64_infinite]
  | finite negative m e =>
      rw [ofBinary64_finite]
      constructor
      · rintro h
        exact ⟨negative, m, e, rfl, Extended.finite.inj h⟩
      · rintro ⟨negative', m', e', h, rfl⟩
        cases h
        rfl

theorem abs_signed {q : ℚ} (h : 0 ≤ q) : |signed negative q| = q := by
  cases negative <;> simp [signed, abs_of_nonneg h]

theorem signed_natAbs (k : Int) : signed (k < 0) k.natAbs = k := by
  rw [Nat.cast_natAbs, Int.cast_abs]
  by_cases hk : k < 0
  · have hcast : (k : ℚ) < 0 := by exact_mod_cast hk
    rw [signed, if_pos (decide_eq_true hk), abs_of_neg hcast, neg_neg]
  · have hcast : (0 : ℚ) ≤ k := by exact_mod_cast not_lt.mp hk
    rw [signed, if_neg (by simpa using hk), abs_of_nonneg hcast]

theorem signed_inj {q r : ℚ} (hq : 0 < q) (hr : 0 ≤ r)
    (h : signed negative q = signed negative' r) : negative = negative' ∧ q = r := by
  have habs : q = r := by rw [← abs_signed hq.le, h, abs_signed hr]
  subst habs
  cases negative <;> cases negative' <;> simp [signed] at h ⊢ <;> linarith

/-- Doubles that stand for the same are read alike, unless they are zeros, which may differ in their
signs. -/
theorem ofFloat_eq_of_value_eq (h : (Number.float x).value = (Number.float y).value)
    (hzero : (Number.float x).value ≠ .finite 0) : ofFloat x = ofFloat y := by
  cases hx : (Number.float x).value with
  | nan => rw [value_eq_nan_iff.mp hx, value_eq_nan_iff.mp (h.symm.trans hx)]
  | negInf =>
      rw [(value_eq_infinite_iff true).mp hx, (value_eq_infinite_iff true).mp (h.symm.trans hx)]
  | posInf =>
      rw [(value_eq_infinite_iff false).mp hx, (value_eq_infinite_iff false).mp (h.symm.trans hx)]
  | finite q =>
      obtain ⟨s, m, e, hreadx, hqx⟩ := value_eq_finite_iff.mp hx
      obtain ⟨s', m', e', hready, hqy⟩ := value_eq_finite_iff.mp (h.symm.trans hx)
      have hpos : 0 < magnitude m e := by
        refine lt_of_le_of_ne (magnitude_nonneg m e) fun hnot => hzero ?_
        rw [hx, ← hqx, ← hnot]
        cases s <;> simp [signed]
      obtain ⟨rfl, hmagnitude⟩ := signed_inj hpos (magnitude_nonneg m' e') (hqx.trans hqy.symm)
      obtain ⟨rfl, rfl⟩ := eq_of_magnitude_eq (isCanonical_of_ofFloat hreadx).1
        (isCanonical_of_ofFloat hready).1 hmagnitude
      rw [hreadx, hready]

/-! ## Whole numbers -/

section Whole

variable {k : Int} (h : signed negative (magnitude m e) = k)
include h

theorem magnitude_of_whole : magnitude m e = k.natAbs := by
  rw [← abs_signed (magnitude_nonneg m e), h, ← Int.cast_abs, Nat.cast_natAbs]

theorem quotient_of_whole : (quotient m e).1 = k.natAbs * (quotient m e).2 := by
  obtain ⟨-, hquotient⟩ := quotient_eq m e
  rw [magnitude_of_whole h] at hquotient
  exact_mod_cast hquotient

theorem whole_eq : k = if negative then -(k.natAbs : Int) else k.natAbs := by
  rw [magnitude_of_whole h] at h
  refine Int.cast_injective (α := ℚ) (h.symm.trans ?_)
  cases negative with
  | true =>
      rw [if_pos rfl, Int.cast_neg, Int.cast_natCast]
      rfl
  | false =>
      rw [if_neg Bool.false_ne_true, Int.cast_natCast]
      rfl

theorem tooLarge_of_whole (hm : IsCanonical m e) (he : e ≤ 971) : tooLarge k = false := by
  have hquotient := quotient_of_whole h
  have hlt := hm.lt
  refine tooLarge_eq_false_of_le (e := e.toNat) (by omega) ?_
  rw [quotient] at hquotient
  split at hquotient
  · dsimp only at hquotient
    rw [Nat.mul_one, Nat.pow_eq] at hquotient
    rw [← hquotient]
    exact Nat.mul_le_mul_right _ (by omega)
  · dsimp only at hquotient
    have hle : k.natAbs ≤ m := by
      rw [hquotient]
      exact Nat.le_mul_of_pos_right _ (Nat.two_pow_pos _)
    exact (hle.trans (by omega)).trans (Nat.le_mul_of_pos_right _ (Nat.two_pow_pos _))

end Whole

end Binary64

end Nesting
