import Nesting.Binary64
import Nesting.Proofs.Binary64.Rounding

/-!
# The bits of a double

Reading a double from its bits is the same as unpacking it (`ofFloat_eq`), what is unpacked is
canonical (`isCanonical_of_ofBits`), and a canonical magnitude that is not too large comes out of
its bits again (`unpack_pack`). So what the operations on doubles give can be followed without
looking at bits.
-/

namespace Nesting

namespace Binary64

open Float.Model Float.Model.UnpackedFloat

def isNegative : Sign → Bool
  | .negative => true
  | .positive => false

/-- What an unpacked double stands for. -/
def ofUnpacked : UnpackedFloat → Binary64
  | .infinity s => infinite (isNegative s)
  | .notANumber => nan
  | .zero s => finite (isNegative s) 0 minExponent
  | .finite s m e _ => finite (isNegative s) m e

/-! ## The parts of a bit pattern -/

section Parts

variable (b : BitVec 64)

theorem toNat_unpackMantissa :
    (@unpackMantissa Format.binary64 b).toNat = b.toNat % 2 ^ 52 := by
  simp [unpackMantissa, BitVec.extractLsb]

theorem toNat_unpackExponent :
    (@unpackExponent Format.binary64 b).toNat = b.toNat / 2 ^ 52 % 2 ^ 11 := by
  simp [unpackExponent, BitVec.extractLsb, Nat.shiftRight_eq_div_pow]

theorem toNat_unpackSign :
    (@unpackSign Format.binary64 b).toNat = b.toNat / 2 ^ 63 % 2 := by
  simp [unpackSign, BitVec.extractLsb, Nat.shiftRight_eq_div_pow]

end Parts

theorem toNat_one_append (v : BitVec 52) : (1#1 ++ v).toNat = 2 ^ 52 + v.toNat := by
  rw [BitVec.toNat_append, ← Nat.shiftLeft_add_eq_or_of_lt v.isLt]
  simp [Nat.shiftLeft_eq]

theorem isNegative_ofBitVec (v : BitVec 1) : isNegative (Sign.ofBitVec v) = (v.toNat == 1) := by
  have h : v = 0#1 ∨ v = 1#1 := by
    have := v.isLt
    rcases Nat.lt_or_ge v.toNat 1 with h | h
    · exact Or.inl (BitVec.eq_of_toNat_eq (by simp; omega))
    · exact Or.inr (BitVec.eq_of_toNat_eq (by simp; omega))
  rcases h with rfl | rfl <;> rfl

/-! ## Reading and unpacking -/

theorem ofBits_eq (b : BitVec 64) :
    ofBits b.toNat = ofUnpacked (UnpackedFloat.unpack Format.binary64 b) := by
  have hinf : @unpackExponent Format.binary64 b = -1#11 ↔
      b.toNat / 2 ^ 52 % 2 ^ 11 = 2047 := by
    rw [← BitVec.toNat_inj, toNat_unpackExponent]
    rfl
  have hleast : @unpackExponent Format.binary64 b = 0#11 ↔
      b.toNat / 2 ^ 52 % 2 ^ 11 = 0 := by
    rw [← BitVec.toNat_inj, toNat_unpackExponent]
    rfl
  have hzero : @unpackMantissa Format.binary64 b = 0#52 ↔ b.toNat % 2 ^ 52 = 0 := by
    rw [← BitVec.toNat_inj, toNat_unpackMantissa]
    rfl
  have hsign : isNegative (Sign.ofBitVec (@unpackSign Format.binary64 b)) =
      (b.toNat / 2 ^ 63 % 2 == 1) := by
    rw [isNegative_ofBitVec, toNat_unpackSign]
  have hbias : ((Format.binary64.exponentBias : Int) + (52 : Nat)) = 1075 := rfl
  simp only [ofBits, UnpackedFloat.unpack, Nat.pow_eq, hinf, hleast, hzero]
  split
  · split
    · rw [ofUnpacked, hsign]
    · rfl
  · split
    · next hexp =>
        split
        · next hmant => rw [ofUnpacked, hsign, hmant]
        · rw [ofUnpacked, hsign, toNat_unpackMantissa, toNat_unpackExponent, hexp, hbias]
          rfl
    · rw [ofUnpacked, hsign, toNat_one_append, toNat_unpackMantissa, toNat_unpackExponent, hbias]
      rfl

theorem ofFloat_eq (x : Float) : ofFloat x = ofUnpacked x.toModel.unpack :=
  ofBits_eq x.toModel.toBits.toBitVec

theorem isCanonical_of_ofBits {b : Nat} {negative : Bool} {m : Nat} {e : Int}
    (h : ofBits b = .finite negative m e) : IsCanonical m e ∧ e ≤ 971 := by
  have hfraction : b % 2 ^ 52 < 2 ^ 52 := Nat.mod_lt _ (by norm_num)
  have hbiased : b / 2 ^ 52 % 2 ^ 11 < 2 ^ 11 := Nat.mod_lt _ (by norm_num)
  simp only [ofBits, Nat.pow_eq] at h
  split at h
  · split at h <;> cases h
  · next hfinite =>
      split at h
      · obtain ⟨-, rfl, rfl⟩ := Binary64.finite.inj h
        exact ⟨⟨by omega, le_rfl, Or.inl rfl⟩, by decide⟩
      · next hpos =>
          obtain ⟨-, rfl, rfl⟩ := Binary64.finite.inj h
          refine ⟨⟨by omega, ?_, Or.inr (by omega)⟩, ?_⟩ <;> simp only [Int.ofNat_eq_natCast] <;> omega

theorem isCanonical_of_unpack {b : BitVec 64} {s : Sign} {m : Nat} {e : Int} {h : 0 < m}
    (hx : UnpackedFloat.unpack Format.binary64 b = .finite s m e h) : IsCanonical m e :=
  (isCanonical_of_ofBits ((ofBits_eq b).trans (congrArg ofUnpacked hx))).1

/-! ## Packing -/

/-- A mantissa without its leading bit has the least exponent. -/
theorem unpack_packComponents_zero {s : Sign} {m : Nat} (hpos : 0 < m) (hm : m < 2 ^ 52) :
    UnpackedFloat.unpack Format.binary64
        (packComponents Format.binary64 s 0#11 (BitVec.ofNat 52 m)) =
      .finite s m (-1074) hpos := by
  have hnat : (BitVec.ofNat 52 m).toNat = m := by rw [BitVec.toNat_ofNat, Nat.mod_eq_of_lt hm]
  have hne : BitVec.ofNat 52 m ≠ 0#52 := fun h => by
    rw [h] at hnat
    exact hpos.ne hnat
  simp only [UnpackedFloat.unpack, unpackMantissa_packComponents, unpackExponent_packComponents,
    unpackSign_packComponents, Sign.ofBitVec_toBitVec, hne, hnat]
  rfl

theorem unpack_packComponents {s : Sign} {m b : Nat} (hm : m < 2 ^ 53) (hfull : 2 ^ 52 ≤ m)
    (hb : 0 < b) (hb' : b < 2047) :
    UnpackedFloat.unpack Format.binary64
        (packComponents Format.binary64 s (BitVec.ofNat 11 b) (BitVec.ofNat 52 m)) =
      .finite s m (b - 1075) (by omega) := by
  have hnat : (BitVec.ofNat 11 b).toNat = b := by
    rw [BitVec.toNat_ofNat, Nat.mod_eq_of_lt (by omega)]
  have hinf : BitVec.ofNat 11 b ≠ -1#11 := fun h => by
    rw [h] at hnat
    exact hb'.ne' hnat
  have hzero : BitVec.ofNat 11 b ≠ 0#11 := fun h => by
    rw [h] at hnat
    exact hb.ne hnat
  have hmantissa : (1#1 ++ BitVec.ofNat 52 m).toNat = m := by
    rw [toNat_one_append, BitVec.toNat_ofNat]
    omega
  simp only [UnpackedFloat.unpack, unpackMantissa_packComponents, unpackExponent_packComponents,
    unpackSign_packComponents, Sign.ofBitVec_toBitVec, hinf, hzero, hnat, hmantissa]
  rfl

/-- A canonical magnitude comes out of its bits again, unless it is too large. -/
theorem unpack_pack {s : Sign} {m : Nat} {e : Int} (h : IsCanonical m e) (he : e ≤ 971) :
    (Float.Model.pack (ofMagnitude s m e)).unpack = ofMagnitude s m e := by
  have hpacked : ∀ u, (Float.Model.pack u).unpack =
      UnpackedFloat.unpack Format.binary64 (UnpackedFloat.pack Format.binary64 u) := fun _ => rfl
  rw [hpacked, ofMagnitude]
  by_cases hzero : m = 0
  · rw [dif_pos hzero]
    cases s <;> rfl
  · have hpos : 0 < m := Nat.pos_of_ne_zero hzero
    have hleast := h.least
    have hbias : (e + (Format.binary64.exponentBias : Int) + (52 : Nat)).toNat =
        (e + 1075).toNat := by
      have : ((Format.binary64.exponentBias : Int) + (52 : Nat)) = 1075 := rfl
      omega
    rw [dif_neg hzero, UnpackedFloat.pack]
    dsimp only
    rw [hbias, if_neg (by norm_num; omega)]
    by_cases hfull : 2 ^ 52 ≤ m
    · have hlog : m.log2 = 52 := (Nat.log2_eq_iff hzero).mpr ⟨hfull, h.lt⟩
      have hexponent : ((e + 1075).toNat : Int) - 1075 = e := by omega
      rw [if_pos (by rw [hlog]; rfl), unpack_packComponents h.lt hfull (by omega) (by omega),
        hexponent]
    · obtain rfl : e = -1074 := h.full.resolve_right hfull
      have hlog : m.log2 < 52 := (Nat.log2_lt hzero).mpr (by omega)
      rw [if_neg (by simp [Format.mantissaBits]; omega),
        unpack_packComponents_zero hpos (by omega)]

end Binary64

end Nesting
