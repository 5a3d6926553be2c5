import Nesting.Proofs.Decimal.Denoting
import Nesting.Proofs.Report.Pictures
import Nesting.Report.Summary

/-!
# Texts that are shown as they are

A terminal acts on tabs, line feeds and the controls that it hides; a text without them is visible
and shown unchanged (`shown_append`). A markup is read as itself where it holds neither backslashes
nor opening brackets, and no code is found where there are no colons. Literal texts are all of that,
and every character of them takes one column; what is written for numbers is literal.
-/

namespace Nesting

/-! ## Visible texts -/

/-- Texts that hold nothing a terminal acts on. -/
def IsVisible (s : List Char) : Prop :=
  ∀ c ∈ s, c ≠ '\t' ∧ c ≠ '\n' ∧ isHiddenControl c = false

instance (s : List Char) : Decidable (IsVisible s) :=
  List.decidableBAll _ s

theorem isVisible_append {s t : List Char} : IsVisible (s ++ t) ↔ IsVisible s ∧ IsVisible t :=
  List.forall_mem_append

theorem IsVisible.not_mem_tab {s : List Char} (h : IsVisible s) : '\t' ∉ s :=
  fun hc => (h _ hc).1 rfl

theorem IsVisible.not_mem_newline {s : List Char} (h : IsVisible s) : '\n' ∉ s :=
  fun hc => (h _ hc).2.1 rfl

theorem IsVisible.filter_eq {s : List Char} (h : IsVisible s) :
    (s.filter fun c => !isHiddenControl c) = s := by
  refine List.filter_eq_self.mpr fun c hc => ?_
  rw [(h c hc).2.2]
  rfl

/-- Texts without characters of two columns. -/
def IsNarrow (s : List Char) : Prop :=
  ∀ c ∈ s, charWidth c ≤ 1

instance (s : List Char) : Decidable (IsNarrow s) :=
  List.decidableBAll _ s

/-- A text as a terminal shows it from a column on. -/
def shownFrom (column : Nat) (s : List Char) : List Char :=
  expandTabs column (s.filter fun c => !isHiddenControl c)

theorem expandTabs_cons_of_ne {c : Char} (htab : c ≠ '\t') (hline : c ≠ '\n') (column : Nat)
    (s : List Char) :
    expandTabs column (c :: s) = c :: expandTabs (column + charWidth c) s := by
  rw [expandTabs]
  · exact hline
  · exact htab

theorem IsVisible.expandTabs_append {s : List Char} (h : IsVisible s) (column : Nat)
    (rest : List Char) :
    expandTabs column (s ++ rest) = s ++ expandTabs (column + textWidth s) rest := by
  induction s generalizing column with
  | nil => rfl
  | cons c s ih =>
      obtain ⟨⟨htab, hline, -⟩, hs⟩ := List.forall_mem_cons.mp h
      rw [List.cons_append, expandTabs_cons_of_ne htab hline, ih hs, Nat.add_assoc]
      rfl

theorem shown_append {s : List Char} (h : IsVisible s) (rest : List Char) :
    shown (s ++ rest) = s ++ shownFrom (textWidth s) rest := by
  rw [shown, List.filter_append, h.filter_eq, h.expandTabs_append, Nat.zero_add, shownFrom]

theorem shown_of_isVisible {s : List Char} (h : IsVisible s) : shown s = s := by
  have happend := shown_append h []
  rwa [List.append_nil, shownFrom, List.filter_nil, expandTabs, List.append_nil] at happend

theorem expandTabs_of_not_mem {s : List Char} (h : '\t' ∉ s) (column : Nat) :
    expandTabs column s = s := by
  induction s generalizing column with
  | nil => rfl
  | cons c s ih =>
      rw [List.mem_cons, not_or] at h
      obtain ⟨hc, hs⟩ := h
      by_cases hline : c = '\n'
      · subst hline
        rw [expandTabs, ih hs]
      · rw [expandTabs_cons_of_ne (Ne.symm hc) hline, ih hs]

/-! ## Literal texts -/

/-- Whether a character is shown in one column and neither markup nor codes are made of it. -/
def isLiteral (c : Char) : Bool :=
  32 ≤ c.toNat && c.toNat < 127 && c != '[' && c != '\\' && c != ':'

def IsLiteral (s : List Char) : Prop :=
  ∀ c ∈ s, isLiteral c = true

instance (s : List Char) : Decidable (IsLiteral s) :=
  List.decidableBAll _ s

@[simp] theorem isLiteral_nil : IsLiteral [] :=
  fun _ h => nomatch h

@[simp] theorem isLiteral_cons {c : Char} {s : List Char} :
    IsLiteral (c :: s) ↔ isLiteral c = true ∧ IsLiteral s :=
  List.forall_mem_cons

@[simp] theorem isLiteral_append {s t : List Char} :
    IsLiteral (s ++ t) ↔ IsLiteral s ∧ IsLiteral t :=
  List.forall_mem_append

theorem isLiteral_replicate {c : Char} (h : isLiteral c = true) (n : Nat) :
    IsLiteral (List.replicate n c) := by
  intro d hd
  rw [List.eq_of_mem_replicate hd]
  exact h

section

variable {s : List Char}

theorem toNat_of_isLiteral {c : Char} (h : isLiteral c = true) : 32 ≤ c.toNat ∧ c.toNat < 127 := by
  simp only [isLiteral, Bool.and_eq_true, decide_eq_true_eq] at h
  exact h.1.1.1

theorem IsLiteral.isVisible (h : IsLiteral s) : IsVisible s := by
  intro c hc
  obtain ⟨hlow, -⟩ := toNat_of_isLiteral (h c hc)
  refine ⟨?_, ?_, ?_⟩
  · rintro rfl
    exact absurd hlow (by decide)
  · rintro rfl
    exact absurd hlow (by decide)
  · simp only [isHiddenControl, Bool.or_eq_false_iff, Bool.and_eq_false_iff, beq_eq_false_iff_ne,
      decide_eq_false_iff_not]
    omega

theorem IsLiteral.not_mem_tab (h : IsLiteral s) : '\t' ∉ s :=
  h.isVisible.not_mem_tab

theorem IsLiteral.isMarkupFree (h : IsLiteral s) : Markup.IsMarkupFree s := by
  intro c hc
  have hliteral := h c hc
  simp only [isLiteral, Bool.and_eq_true, bne_iff_ne] at hliteral
  exact ⟨hliteral.1.2, hliteral.1.1.2⟩

theorem IsLiteral.not_mem_colon (h : IsLiteral s) : ':' ∉ s :=
  fun hc => absurd (h ':' hc) (by decide)

theorem IsLiteral.textWidth_eq (h : IsLiteral s) : textWidth s = s.length := by
  induction s with
  | nil => rfl
  | cons c s ih =>
      obtain ⟨hc, hs⟩ := isLiteral_cons.mp h
      change charWidth c + textWidth s = s.length + 1
      rw [charWidth, if_pos (toNat_of_isLiteral hc), ih hs, Nat.add_comm]

end

/-! ## Numbers are literal -/

theorem isLiteral_digitsOf (n : Nat) : IsLiteral (digitsOf n) := by
  intro c hc
  have hdigit := isDigit_of_mem_digitsOf hc
  simp only [Char.isDigit, Bool.and_eq_true, decide_eq_true_eq, UInt32.le_iff_toNat_le, ge_iff_le]
    at hdigit
  have hopen : c ≠ '[' := by
    rintro rfl
    exact absurd hdigit.2 (by decide)
  have hslash : c ≠ '\\' := by
    rintro rfl
    exact absurd hdigit.2 (by decide)
  have hcolon : c ≠ ':' := by
    rintro rfl
    exact absurd hdigit.2 (by decide)
  have hlow : 48 ≤ c.toNat := hdigit.1
  have hhigh : c.toNat ≤ 57 := hdigit.2
  simp only [isLiteral, Bool.and_eq_true, decide_eq_true_eq, bne_iff_ne]
  exact ⟨⟨⟨⟨by omega, by omega⟩, hopen⟩, hslash⟩, hcolon⟩

theorem isLiteral_intText (n : Int) : IsLiteral (intText n).toList := by
  rw [intText, String.toList_ofList, isLiteral_append]
  refine ⟨?_, isLiteral_digitsOf _⟩
  split <;> decide

theorem isLiteral_signText (negative : Bool) : IsLiteral (signText negative) := by
  cases negative <;> decide

theorem isLiteral_fixedDigits (tie : Tie) (places num den : Nat) :
    IsLiteral (fixedDigits tie places num den) := by
  rw [fixedDigits, isLiteral_append]
  refine ⟨isLiteral_digitsOf _, ?_⟩
  split
  · exact isLiteral_nil
  · rw [isLiteral_cons, isLiteral_append]
    exact ⟨rfl, isLiteral_replicate rfl _, isLiteral_digitsOf _⟩

theorem isLiteral_fixedText (places : Nat) (x : Float) : IsLiteral (fixedText places x).toList := by
  rw [fixedText]
  split
  · decide
  · rw [String.toList_ofList, isLiteral_append]
    exact ⟨isLiteral_signText _, by decide⟩
  · rw [String.toList_ofList, isLiteral_append]
    exact ⟨isLiteral_signText _, isLiteral_fixedDigits _ _ _ _⟩

theorem isLiteral_exponentText (e : Int) : IsLiteral (exponentText e) := by
  rw [exponentText, isLiteral_append, isLiteral_cons, isLiteral_cons]
  refine ⟨⟨rfl, ?_, isLiteral_nil⟩, ?_⟩
  · split <;> rfl
  · split
    · exact isLiteral_cons.mpr ⟨rfl, isLiteral_digitsOf _⟩
    · exact isLiteral_digitsOf _

theorem NumberLayout.isLiteral_write (layout : NumberLayout) (d : Decimal) :
    IsLiteral (layout.write d) := by
  have hdigits := isLiteral_digitsOf d.digits
  have htake : ∀ n, IsLiteral ((digitsOf d.digits).take n) :=
    fun n c hc => hdigits c (List.mem_of_mem_take hc)
  have hdrop : ∀ n, IsLiteral ((digitsOf d.digits).drop n) :=
    fun n c hc => hdigits c (List.mem_of_mem_drop hc)
  have hzeros : ∀ n, IsLiteral (List.replicate n '0') := isLiteral_replicate rfl
  have hpoint : isLiteral '.' = true := rfl
  have hzero : isLiteral '0' = true := rfl
  have hexponent := isLiteral_exponentText
  simp only [write]
  repeat' split
  all_goals
    simp only [isLiteral_cons, isLiteral_append, isLiteral_nil, hdigits, htake, hdrop, hzeros,
      hpoint, hzero, hexponent, and_self]

theorem isLiteral_generalText (x : Float) : IsLiteral (generalText x).toList := by
  rw [generalText]
  split
  · decide
  · rw [String.toList_ofList, isLiteral_append]
    exact ⟨isLiteral_signText _, by decide⟩
  · rw [String.toList_ofList, isLiteral_append]
    refine ⟨isLiteral_signText _, ?_⟩
    split
    · decide
    · exact NumberLayout.isLiteral_write _ _

end Nesting
