import Nesting.Decimal.Layout
import Nesting.Decimal.Reading
import Nesting.Proofs.Binary64.Values

/-!
# The numbers that numerals denote

A text denotes a number when it is read as a numeral that stands for it (`Denotes`), so what is
written can be judged by what is read from it. Digits read back as the number that they were made
from, with zeros before them too (`digitsValue_padded`). Hence a whole number is written as a text
that denotes it (`denotes_intText`), and a quotient with a fixed number of places as one that
denotes its rounding (`denotes_fixedDigits`).
-/

namespace Nesting

open Binary64

/-! ## Digits -/

theorem digitsValue_eq (ds : List Char) : digitsValue ds = Nat.ofDigitChars 10 ds 0 :=
  Nat.ofDigitChars_eq_foldl.symm

theorem digitsOf_ne_nil (n : Nat) : digitsOf n ≠ [] := Nat.toDigits_ne_nil

theorem isDigit_of_mem_digitsOf {n : Nat} {c : Char} (h : c ∈ digitsOf n) : c.isDigit = true :=
  Nat.isDigit_of_mem_toDigits (by norm_num) le_rfl h

theorem digitsValue_digitsOf (n : Nat) : digitsValue (digitsOf n) = n := by
  rw [digitsValue_eq, digitsOf, Nat.ofDigitChars_ten_toDigits]

theorem digitsValue_append (ds es : List Char) :
    digitsValue (ds ++ es) = 10 ^ es.length * digitsValue ds + digitsValue es := by
  simp only [digitsValue_eq, Nat.ofDigitChars_append]
  exact Nat.ofDigitChars_eq_ofDigitChars_zero

section Padded

variable {places n : Nat}

theorem toList_padded :
    (padded places n).toList =
      List.replicate (places - (digitsOf n).length) '0' ++ digitsOf n := by
  rw [padded, String.toList_ofList]

theorem isDigit_of_mem_padded {c : Char} (h : c ∈ (padded places n).toList) :
    c.isDigit = true := by
  rw [toList_padded] at h
  rcases List.mem_append.mp h with h | h
  · rw [List.eq_of_mem_replicate h]
    rfl
  · exact isDigit_of_mem_digitsOf h

theorem digitsValue_padded : digitsValue (padded places n).toList = n := by
  rw [toList_padded, digitsValue_append, digitsValue_digitsOf, digitsValue_eq,
    Nat.ofDigitChars_replicate_zero, Nat.mul_zero, Nat.mul_zero, Nat.zero_add]

theorem length_padded (hplaces : 0 < places) (h : n < 10 ^ places) :
    (padded places n).toList.length = places := by
  have hle := (Nat.length_toDigits_le_iff (by norm_num) hplaces).mpr h
  rw [toList_padded, List.length_append, List.length_replicate, digitsOf]
  omega

end Padded

/-! ## Numerals -/

/-- The number that a numeral stands for. -/
def Numeral.value (n : Numeral) : ℚ :=
  signed n.negative (n.digits * 10 ^ n.exponent)

/-- Whether a text is a numeral that stands for a number. -/
def Denotes (text : String) (q : ℚ) : Prop :=
  let (negative, cs) := takeSign text.toList
  (numeral? negative cs).map Numeral.value = some q

theorem Denotes.unique {text : String} {q r : ℚ} (hq : Denotes text q) (hr : Denotes text r) :
    q = r :=
  Option.some.inj (hq.symm.trans hr)

theorem takeSign_signText (negative : Bool) {c : Char} (h : c.isDigit = true) (cs : List Char) :
    takeSign (signText negative ++ c :: cs) = (negative, c :: cs) := by
  cases negative with
  | true => rfl
  | false =>
      rw [signText, if_neg Bool.false_ne_true, List.nil_append, takeSign]
      · rintro rest ⟨⟩
        cases h
      · rintro rest ⟨⟩
        cases h

variable {whole fraction : List Char}

theorem denotes_signText_append (negative : Bool) (hne : whole ≠ [])
    (h : ∀ c ∈ whole, c.isDigit = true) (rest : List Char) {q : ℚ} :
    Denotes (String.ofList (signText negative ++ (whole ++ rest))) q ↔
      (numeral? negative (whole ++ rest)).map Numeral.value = some q := by
  obtain ⟨c, cs, rfl⟩ := List.exists_cons_of_ne_nil hne
  rw [Denotes, String.toList_ofList, List.cons_append, takeSign_signText negative (h c (by simp))]

theorem numeral?_whole (negative : Bool) (hne : whole ≠ []) (h : ∀ c ∈ whole, c.isDigit = true) :
    numeral? negative whole = some ⟨negative, digitsValue whole, whole.length, 0⟩ := by
  have htake : whole.takeWhile Char.isDigit = whole := List.takeWhile_eq_self_iff.mpr h
  have hdrop : whole.dropWhile Char.isDigit = [] := List.dropWhile_eq_nil_iff.mpr h
  simp [numeral?, htake, hdrop, hne, exponent?]

theorem numeral?_fraction (negative : Bool) (hne : whole ≠ [])
    (h : ∀ c ∈ whole, c.isDigit = true) (h' : ∀ c ∈ fraction, c.isDigit = true) :
    numeral? negative (whole ++ '.' :: fraction) =
      some ⟨negative, digitsValue (whole ++ fraction), (whole ++ fraction).length,
        -fraction.length⟩ := by
  have htake : (whole ++ '.' :: fraction).takeWhile Char.isDigit = whole := by
    rw [List.takeWhile_append_of_pos h, List.takeWhile_cons_of_neg (by decide), List.append_nil]
  have hdrop : (whole ++ '.' :: fraction).dropWhile Char.isDigit = '.' :: fraction := by
    rw [List.dropWhile_append_of_pos h, List.dropWhile_cons_of_neg (by decide)]
  have htake' : fraction.takeWhile Char.isDigit = fraction := List.takeWhile_eq_self_iff.mpr h'
  have hdrop' : fraction.dropWhile Char.isDigit = [] := List.dropWhile_eq_nil_iff.mpr h'
  simp [numeral?, htake, hdrop, htake', hdrop', hne, exponent?]

/-! ## What is written -/

theorem denotes_intText (n : ℤ) : Denotes (intText n) n := by
  have hdigits : ∀ c ∈ digitsOf n.natAbs, c.isDigit = true := fun c => isDigit_of_mem_digitsOf
  have htext : intText n = String.ofList (signText (n < 0) ++ (digitsOf n.natAbs ++ [])) := by
    simp [intText, signText]
  rw [htext, denotes_signText_append _ (digitsOf_ne_nil _) hdigits, List.append_nil,
    numeral?_whole _ (digitsOf_ne_nil _) hdigits, Option.map_some, Numeral.value,
    digitsValue_digitsOf, zpow_zero, mul_one, signed_natAbs]

theorem fixedDigits_eq (tie : Tie) {places : Nat} (hplaces : 0 < places) (num den : Nat) :
    let n := roundDiv tie (num * 10 ^ places) den
    fixedDigits tie places num den =
      digitsOf (n / 10 ^ places) ++ '.' :: (padded places (n % 10 ^ places)).toList := by
  dsimp only
  rw [fixedDigits, if_neg hplaces.ne', toList_padded]
  rfl

/-- Whether a text is a sign if any, a whole number, a point and so many digits. -/
def HasPlaces (places : Nat) (text : String) : Prop :=
  ∃ (negative : Bool) (whole : Nat) (fraction : List Char),
    text = String.ofList (signText negative ++ digitsOf whole ++ '.' :: fraction)
      ∧ fraction.length = places ∧ ∀ c ∈ fraction, c.isDigit = true

theorem hasPlaces_fixedDigits (negative : Bool) (tie : Tie) {places : Nat} (hplaces : 0 < places)
    (num den : Nat) :
    HasPlaces places (String.ofList (signText negative ++ fixedDigits tie places num den)) := by
  rw [fixedDigits_eq tie hplaces, ← List.append_assoc]
  exact ⟨negative, _, _, rfl, length_padded hplaces (Nat.mod_lt _ (by positivity)),
    fun c => isDigit_of_mem_padded⟩

theorem denotes_fixedDigits (negative : Bool) (tie : Tie) {places : Nat} (hplaces : 0 < places)
    (num den : Nat) :
    Denotes (String.ofList (signText negative ++ fixedDigits tie places num den))
      (signed negative (roundDiv tie (num * 10 ^ places) den / 10 ^ places)) := by
  generalize hn : roundDiv tie (num * 10 ^ places) den = n
  have hlength : (padded places (n % 10 ^ places)).toList.length = places :=
    length_padded hplaces (Nat.mod_lt n (by positivity))
  rw [fixedDigits_eq tie hplaces, hn,
    denotes_signText_append _ (digitsOf_ne_nil _) fun c => isDigit_of_mem_digitsOf,
    numeral?_fraction _ (digitsOf_ne_nil _) (fun c => isDigit_of_mem_digitsOf)
      fun c => isDigit_of_mem_padded, Option.map_some, Numeral.value]
  dsimp only
  rw [digitsValue_append, digitsValue_digitsOf, digitsValue_padded, hlength, Nat.div_add_mod,
    zpow_neg, zpow_natCast, div_eq_mul_inv]

end Nesting
