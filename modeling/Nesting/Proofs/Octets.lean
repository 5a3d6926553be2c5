import Mathlib.Data.List.Basic
import Nesting.Text.Utf8

/-!
# Texts as octets

A text that is written as octets is read back from them. A character takes as many octets as the
first of them asks for, and the bounds that the first sets for the second are those that its code
point keeps (`octetParts_encode`); so the parts of the octets are the characters, one after another
(`decodeStrict_encodeText`).
-/

namespace Nesting

/-- A text as octets. -/
def encodeText (cs : List Char) : List UInt8 :=
  cs.flatMap String.utf8EncodeChar

/-! ## Characters -/

/-- An octet by its value. -/
theorem toNat_ofNat_of_lt {n : Nat} (h : n < 256) : (UInt8.ofNat n).toNat = n := by
  rw [UInt8.toNat_ofNat', Nat.mod_eq_of_lt h]

theorem continuations_cons {low high n : Nat} (wanted : Nat) (rest : List UInt8)
    (hlow : low ≤ n) (hhigh : n ≤ high) (hn : n < 256) :
    continuations low high (wanted + 1) (UInt8.ofNat n :: rest) =
      n :: continuations 0x80 0xbf wanted rest := by
  rw [continuations, toNat_ofNat_of_lt hn, decide_eq_true hlow, decide_eq_true hhigh]
  rfl

theorem continuations_zero (low high : Nat) (rest : List UInt8) :
    continuations low high 0 rest = [] := by
  rw [continuations]

theorem octetLead?_two {b : Nat} (h : 0xc2 ≤ b) (h' : b < 0xe0) :
    octetLead? b = some ⟨1, 0x80, 0xbf, b - 0xc0⟩ := by
  rw [octetLead?, if_neg (by omega), if_neg (by omega), if_pos h']

theorem octetLead?_three {b : Nat} (h : 0xe0 ≤ b) (h' : b < 0xf0) :
    octetLead? b = some
      ⟨2, if b = 0xe0 then 0xa0 else 0x80, if b = 0xed then 0x9f else 0xbf, b - 0xe0⟩ := by
  rw [octetLead?, if_neg (by omega), if_neg (by omega), if_neg (by omega), if_pos h']

theorem octetLead?_four {b : Nat} (h : 0xf0 ≤ b) (h' : b < 0xf5) :
    octetLead? b = some
      ⟨3, if b = 0xf0 then 0x90 else 0x80, if b = 0xf4 then 0x8f else 0xbf, b - 0xf0⟩ := by
  rw [octetLead?, if_neg (by omega), if_neg (by omega), if_neg (by omega), if_neg (by omega),
    if_pos h']

/-- A character that asks for the octets that follow. -/
theorem firstPart_eq_char {n count low high : Nat} (bits : Nat) {tail : List Nat}
    {rest : List UInt8} {c : Char} (hn : n < 256)
    (hlead : octetLead? n = some ⟨count, low, high, bits⟩) (htail : continuations low high count rest = tail) (hcount : tail.length = count)
    (hcode : tail.foldl (fun n t => n * 64 + (t - 0x80)) bits = c.toNat) :
    firstPart (UInt8.ofNat n) rest = .char c (count + 1) := by
  unfold firstPart
  simp only [toNat_ofNat_of_lt hn, hlead, htail, hcount, if_true, hcode, Char.ofNat_toNat]

/-- The part that the octets of a character start with. The cases are the numbers of octets. -/
theorem firstPart_encode (c : Char) (rest : List UInt8) :
    ∃ b tail, String.utf8EncodeChar c = b :: tail
      ∧ firstPart b (tail ++ rest) = .char c (tail.length + 1) := by
  have hvalid : c.toNat < 0xd800 ∨ 0xdfff < c.toNat ∧ c.toNat < 0x110000 := c.valid
  unfold String.utf8EncodeChar
  simp only [Char.toNat_val]
  by_cases h1 : c.toNat ≤ 0x7f
  · refine ⟨_, _, if_pos h1, firstPart_eq_char c.toNat ?_ ?_ (continuations_zero 0 0 _) rfl rfl⟩
    · omega
    · rw [octetLead?, if_pos (by omega)]
      rfl
  by_cases h2 : c.toNat ≤ 0x7ff
  · have htail : continuations 0x80 0xbf 1 (UInt8.ofNat (c.toNat % 64 + 128) :: rest) =
        [c.toNat % 64 + 128] := by
      rw [continuations_cons 0 rest (by omega) (by omega) (by omega), continuations_zero]
    refine ⟨_, _, (if_neg h1).trans (if_pos h2),
      firstPart_eq_char _ ?_ (octetLead?_two (by omega) (by omega)) htail rfl ?_⟩
    · omega
    · simp only [List.foldl_cons, List.foldl_nil]
      omega
  by_cases h3 : c.toNat ≤ 0xffff
  · let b := c.toNat / 4096 % 16 + 224
    have htail : continuations (if b = 0xe0 then 0xa0 else 0x80) (if b = 0xed then 0x9f else 0xbf) 2
        (UInt8.ofNat (c.toNat / 64 % 64 + 128) :: UInt8.ofNat (c.toNat % 64 + 128) :: rest) =
        [c.toNat / 64 % 64 + 128, c.toNat % 64 + 128] := by
      rw [continuations_cons 1 _ ?_ ?_ (by omega),
        continuations_cons 0 rest (by omega) (by omega) (by omega), continuations_zero]
      all_goals
        simp only [b]
        split <;> omega
    refine ⟨_, _, (if_neg h1).trans ((if_neg h2).trans (if_pos h3)),
      firstPart_eq_char _ ?_ (octetLead?_three (by omega) (by omega)) htail rfl ?_⟩
    · omega
    · simp only [List.foldl_cons, List.foldl_nil]
      omega
  · let b := c.toNat / 262144 % 8 + 240
    have htail : continuations (if b = 0xf0 then 0x90 else 0x80) (if b = 0xf4 then 0x8f else 0xbf) 3
        (UInt8.ofNat (c.toNat / 4096 % 64 + 128) :: UInt8.ofNat (c.toNat / 64 % 64 + 128) ::
          UInt8.ofNat (c.toNat % 64 + 128) :: rest) =
        [c.toNat / 4096 % 64 + 128, c.toNat / 64 % 64 + 128, c.toNat % 64 + 128] := by
      rw [continuations_cons 2 _ ?_ ?_ (by omega),
        continuations_cons 1 _ (by omega) (by omega) (by omega),
        continuations_cons 0 rest (by omega) (by omega) (by omega), continuations_zero]
      all_goals
        simp only [b]
        split <;> omega
    refine ⟨_, _, (if_neg h1).trans ((if_neg h2).trans (if_neg h3)),
      firstPart_eq_char _ ?_ (octetLead?_four (by omega) (by omega)) htail rfl ?_⟩
    · omega
    · simp only [List.foldl_cons, List.foldl_nil]
      omega

/-! ## Texts -/

theorem octetParts_encode (c : Char) (rest : List UInt8) :
    octetParts (String.utf8EncodeChar c ++ rest) =
      .char c (String.utf8EncodeChar c).length :: octetParts rest := by
  obtain ⟨b, tail, hencode, hfirst⟩ := firstPart_encode c rest
  rw [hencode, List.cons_append, octetParts, hfirst, OctetPart.size, Nat.add_sub_cancel,
    List.drop_left, List.length_cons]

theorem octetParts_encodeText (cs : List Char) :
    octetParts (encodeText cs) = cs.map fun c => .char c (String.utf8EncodeChar c).length := by
  induction cs with
  | nil => rw [encodeText, List.flatMap_nil, octetParts, List.map_nil]
  | cons c cs ih =>
      rw [encodeText, List.flatMap_cons, octetParts_encode, List.map_cons]
      exact congrArg _ ih

theorem partChars_map_char (size : Char → Nat) (position : Nat) (cs : List Char) :
    partChars position (cs.map fun c => .char c (size c)) = .ok cs := by
  induction cs generalizing position with
  | nil => rfl
  | cons c cs ih =>
      rw [List.map_cons, partChars, ih]
      rfl

/-- A text is read back from its octets. -/
theorem decodeStrict_encodeText (cs : List Char) : decodeStrict (encodeText cs) = .ok cs := by
  rw [decodeStrict, octetParts_encodeText, partChars_map_char]

end Nesting
