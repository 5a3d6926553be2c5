import Mathlib.Data.List.Infix
import Mathlib.Data.List.TakeWhile
import Nesting.Report.Markup

/-!
# Reading a markup

How a text is taken apart into characters and tags. A tag that is written is read back, whatever
stands behind it (`parts_write_append`), and the parts are all of the text (`write_parts`).
`parts_induction` is the induction over the parts that the other proofs follow. Two texts behind
each other are taken apart by themselves, unless the second one could make a tag of the end of the
first one or count the backslashes there (`parts_append`).
-/

namespace Nesting

namespace Markup

/-! ## Backslashes and tags -/

/-- A text without the backslashes that it starts with. -/
def behindSlashes (s : List Char) : List Char :=
  s.dropWhile (· == '\\')

theorem behindSlashes_slash_cons (s : List Char) : behindSlashes ('\\' :: s) = behindSlashes s :=
  rfl

theorem behindSlashes_cons_of_ne {c : Char} (h : c ≠ '\\') (s : List Char) :
    behindSlashes (c :: s) = c :: s :=
  List.dropWhile_cons_of_neg (by simpa using h)

theorem drop_leadingSlashes (s : List Char) : s.drop (leadingSlashes s) = behindSlashes s := by
  have hs : s.takeWhile (· == '\\') ++ s.dropWhile (· == '\\') = s :=
    List.takeWhile_append_dropWhile
  have hdrop : (s.takeWhile (· == '\\') ++ s.dropWhile (· == '\\')).drop (leadingSlashes s) =
      behindSlashes s := List.drop_left
  rwa [hs] at hdrop

theorem replicate_leadingSlashes_append (s : List Char) :
    List.replicate (leadingSlashes s) '\\' ++ behindSlashes s = s := by
  have hrun : s.takeWhile (· == '\\') = List.replicate (leadingSlashes s) '\\' := by
    refine List.eq_replicate_iff.mpr ⟨rfl, fun c hc => ?_⟩
    have hslash := List.mem_takeWhile_imp hc
    exact beq_iff_eq.mp hslash
  rw [← hrun]
  exact List.takeWhile_append_dropWhile

theorem head?_behindSlashes (s : List Char) : (behindSlashes s).head? ≠ some '\\' := by
  intro h
  have hnot := List.head?_dropWhile_not (· == '\\') s
  rw [behindSlashes] at h
  rw [h] at hnot
  cases hnot

theorem leadingSlashes_replicate_append (n : Nat) {s : List Char} (h : s.head? ≠ some '\\') :
    leadingSlashes (List.replicate n '\\' ++ s) = n := by
  induction n with
  | zero =>
      cases s with
      | nil => rfl
      | cons c s =>
          have hc : c ≠ '\\' := fun heq => h (congrArg some heq)
          simp [leadingSlashes, hc]
  | succ n ih =>
      rw [List.replicate_succ, List.cons_append]
      exact congrArg Nat.succ ih

theorem behindSlashes_replicate_append (n : Nat) {s : List Char} (h : s.head? ≠ some '\\') :
    behindSlashes (List.replicate n '\\' ++ s) = s := by
  induction n with
  | zero =>
      cases s with
      | nil => rfl
      | cons c s => exact behindSlashes_cons_of_ne (fun heq => h (congrArg some heq)) s
  | succ n ih => exact ih

/-- What can stand between the brackets of a tag. -/
def IsTag (t : List Char) : Prop :=
  t.head?.any startsTag = true ∧ ∀ c ∈ t, c ≠ '[' ∧ c ≠ ']'

instance (t : List Char) : Decidable (IsTag t) :=
  @instDecidableAnd _ _ inferInstance (List.decidableBAll _ t)

theorem ne_of_startsTag {c : Char} (h : startsTag c = true) : c ≠ '[' ∧ c ≠ ']' ∧ c ≠ '\\' := by
  refine ⟨?_, ?_, ?_⟩ <;> rintro rfl <;> exact absurd h (by decide)

theorem tagRest?_cons_of_ne {c : Char} (hopen : c ≠ '[') (hclose : c ≠ ']') (s : List Char) :
    tagRest? (c :: s) = (tagRest? s).map fun (t, rest) => (c :: t, rest) := by
  rw [tagRest?]
  · exact fun heq => hclose heq
  · exact fun heq => hopen heq

theorem tagRest?_append {t : List Char} (h : ∀ c ∈ t, c ≠ '[' ∧ c ≠ ']') (rest : List Char) :
    tagRest? (t ++ ']' :: rest) = some (t, rest) := by
  induction t with
  | nil => rfl
  | cons c t ih =>
      obtain ⟨⟨hopen, hclose⟩, ht⟩ := List.forall_mem_cons.mp h
      rw [List.cons_append, tagRest?_cons_of_ne hopen hclose, ih ht]
      rfl

theorem eq_append_of_tagRest? {s t rest : List Char} (h : tagRest? s = some (t, rest)) :
    s = t ++ ']' :: rest ∧ ∀ c ∈ t, c ≠ '[' ∧ c ≠ ']' := by
  induction s generalizing t with
  | nil => cases h
  | cons c s ih =>
      by_cases hclose : c = ']'
      · subst hclose
        obtain ⟨rfl, rfl⟩ := Prod.mk.inj (Option.some.inj h)
        exact ⟨rfl, fun c hc => nomatch hc⟩
      · by_cases hopen : c = '['
        · subst hopen
          cases h
        · rw [tagRest?_cons_of_ne hopen hclose, Option.map_eq_some_iff] at h
          obtain ⟨⟨t', rest'⟩, htail, heq⟩ := h
          obtain ⟨rfl, rfl⟩ := Prod.mk.inj heq
          obtain ⟨rfl, ht⟩ := ih htail
          exact ⟨rfl, List.forall_mem_cons.mpr ⟨⟨hopen, hclose⟩, ht⟩⟩

theorem tag?_append {t : List Char} (h : IsTag t) (rest : List Char) :
    tag? ('[' :: t ++ ']' :: rest) = some (t, rest) := by
  obtain ⟨hhead, hinside⟩ := h
  obtain ⟨c, hc, hstarts⟩ := (Option.any_eq_true startsTag _).mp hhead
  obtain ⟨cs, rfl⟩ := List.head?_eq_some_iff.mp hc
  rw [List.cons_append, List.cons_append, tag?, if_pos hstarts,
    tagRest?_append (List.forall_mem_cons.mp hinside).2]
  rfl

theorem eq_append_of_tag? {s t rest : List Char} (h : tag? s = some (t, rest)) :
    s = '[' :: t ++ ']' :: rest ∧ IsTag t := by
  unfold tag? at h
  split at h
  · next c cs =>
      split at h
      · next hstarts =>
          obtain ⟨⟨t', rest'⟩, htail, heq⟩ := Option.map_eq_some_iff.mp h
          obtain ⟨rfl, rfl⟩ := Prod.mk.inj heq
          obtain ⟨rfl, ht⟩ := eq_append_of_tagRest? htail
          obtain ⟨hopen, hclose, -⟩ := ne_of_startsTag hstarts
          exact ⟨rfl, hstarts, List.forall_mem_cons.mpr ⟨⟨hopen, hclose⟩, ht⟩⟩
      · cases h
  · cases h

theorem tag?_cons_of_ne {c : Char} (h : c ≠ '[') (s : List Char) : tag? (c :: s) = none := by
  unfold tag?
  split
  · next heq =>
      obtain ⟨rfl, -⟩ := List.cons.inj heq
      exact absurd rfl h
  · rfl

/-- The first bracket of a text. -/
def firstBracket (s : List Char) : Option Char :=
  s.find? fun c => c == '[' || c == ']'

/-- Whether a bracket opens a tag is told by the character behind it and the next bracket. -/
theorem isSome_tag?_bracket_cons (s : List Char) :
    (tag? ('[' :: s)).isSome = (s.head?.any startsTag && firstBracket s == some ']') := by
  have hrest : ∀ s, (tagRest? s).isSome = (firstBracket s == some ']') := by
    intro s
    induction s with
    | nil => rfl
    | cons c s ih =>
        by_cases hclose : c = ']'
        · subst hclose
          rfl
        · by_cases hopen : c = '['
          · subst hopen
            rfl
          · rw [tagRest?_cons_of_ne hopen hclose, Option.isSome_map, ih]
            simp [firstBracket, hopen, hclose]
  cases s with
  | nil => rfl
  | cons c s =>
      rw [tag?]
      cases hstarts : startsTag c with
      | false => simp [hstarts]
      | true =>
          obtain ⟨hopen, hclose, -⟩ := ne_of_startsTag hstarts
          simp [hstarts, hrest, firstBracket, hopen, hclose]

/-! ## Parts -/

theorem parts_nil : parts [] = [] := by
  rw [parts]
  rfl

theorem parts_of_tag? {s t rest : List Char} (h : tag? (behindSlashes s) = some (t, rest)) :
    parts s = .tag (leadingSlashes s) t :: parts rest := by
  rw [← drop_leadingSlashes] at h
  rw [parts]
  split
  · next heq =>
      obtain ⟨rfl, rfl⟩ := Prod.mk.inj (Option.some.inj (h.symm.trans heq))
      rfl
  · next heq => cases h.symm.trans heq

theorem parts_cons_of_plain {c : Char} {s : List Char}
    (h : tag? (behindSlashes (c :: s)) = none) : parts (c :: s) = .plain c :: parts s := by
  rw [← drop_leadingSlashes] at h
  rw [parts]
  split
  · next heq => cases h.symm.trans heq
  · rfl

theorem behindSlashes_write_append (n : Nat) (t rest : List Char) :
    behindSlashes ((Part.tag n t).write ++ rest) = '[' :: t ++ ']' :: rest := by
  have hhead : ('[' :: t ++ ']' :: rest).head? ≠ some '\\' := by
    rw [List.cons_append, List.head?_cons]
    decide
  have hbehind := behindSlashes_replicate_append n hhead
  simpa [Part.write] using hbehind

theorem parts_write_append {t : List Char} (h : IsTag t) (n : Nat) (rest : List Char) :
    parts ((Part.tag n t).write ++ rest) = .tag n t :: parts rest := by
  have hhead : ('[' :: t ++ ']' :: rest).head? ≠ some '\\' := by
    rw [List.cons_append, List.head?_cons]
    decide
  have hslashes : leadingSlashes ((Part.tag n t).write ++ rest) = n := by
    have hn := leadingSlashes_replicate_append n hhead
    simpa [Part.write] using hn
  have htag : tag? (behindSlashes ((Part.tag n t).write ++ rest)) = some (t, rest) := by
    rw [behindSlashes_write_append, tag?_append h]
  rw [parts_of_tag? htag, hslashes]

/-- A text is empty, or starts with a tag or with a character that is none. -/
theorem parts_cases (s : List Char) :
    s = [] ∨ (∃ n t rest, IsTag t ∧ s = (Part.tag n t).write ++ rest)
      ∨ ∃ c rest, tag? (behindSlashes (c :: rest)) = none ∧ s = c :: rest := by
  cases htag : tag? (behindSlashes s) with
  | some found =>
      obtain ⟨t, rest⟩ := found
      obtain ⟨hs, ht⟩ := eq_append_of_tag? htag
      refine Or.inr (Or.inl ⟨leadingSlashes s, t, rest, ht, ?_⟩)
      conv_lhs => rw [← replicate_leadingSlashes_append s, hs]
      simp [Part.write]
  | none =>
      cases s with
      | nil => exact Or.inl rfl
      | cons c s => exact Or.inr (Or.inr ⟨c, s, htag, rfl⟩)

/-- The induction that follows how a text is taken apart. -/
@[elab_as_elim]
theorem parts_induction {motive : List Char → Prop} (nil : motive [])
    (tag : ∀ n t rest, IsTag t → motive rest → motive ((Part.tag n t).write ++ rest))
    (plain : ∀ c s, tag? (behindSlashes (c :: s)) = none → motive s → motive (c :: s))
    (s : List Char) : motive s := by
  induction hlength : s.length using Nat.strong_induction_on generalizing s with
  | _ length ih =>
      rcases parts_cases s with rfl | ⟨n, t, rest, ht, rfl⟩ | ⟨c, s, hplain, rfl⟩
      · exact nil
      · have hshorter : rest.length < length := by
          simp only [Part.write, List.length_append, List.length_cons] at hlength
          omega
        exact tag n t rest ht (ih rest.length hshorter rest rfl)
      · have hshorter : s.length < length := by
          rw [← hlength, List.length_cons]
          exact Nat.lt_succ_self _
        exact plain c s hplain (ih s.length hshorter s rfl)

theorem write_parts (s : List Char) : (parts s).flatMap Part.write = s := by
  induction s using parts_induction with
  | nil => rw [parts_nil]; rfl
  | tag n t rest ht ih => rw [parts_write_append ht, List.flatMap_cons, ih]
  | plain c s hplain ih => rw [parts_cons_of_plain hplain, List.flatMap_cons, ih]; rfl

/-! ## Two texts behind each other -/

theorem tag?_bracket_congr {s s' : List Char}
    (hstarts : s.head?.any startsTag = s'.head?.any startsTag)
    (hcloses : firstBracket s = some ']' ↔ firstBracket s' = some ']') :
    tag? ('[' :: s) = none ↔ tag? ('[' :: s') = none := by
  have hbeq : (firstBracket s == some ']') = (firstBracket s' == some ']') := by
    rw [Bool.eq_iff_iff, beq_iff_eq, beq_iff_eq]
    exact hcloses
  rw [← Option.not_isSome_iff_eq_none, ← Option.not_isSome_iff_eq_none,
    isSome_tag?_bracket_cons, isSome_tag?_bracket_cons, hstarts, hbeq]

theorem getLast?_write (n : Nat) (t : List Char) : (Part.tag n t).write.getLast? = some ']' :=
  List.getLast?_concat

/-- A text that neither starts nor closes a tag makes no tag of what stands before it. -/
theorem tag?_behindSlashes_append {s u : List Char} (hne : s ≠ [])
    (hstarts : u.head?.any startsTag = false) (hcloses : firstBracket u ≠ some ']')
    (hlast : s.getLast? ≠ some '\\') (h : tag? (behindSlashes s) = none) :
    tag? (behindSlashes (s ++ u)) = none := by
  have happend : behindSlashes (s ++ u) =
      if (behindSlashes s).isEmpty then behindSlashes u else behindSlashes s ++ u :=
    List.dropWhile_append
  cases hbehind : behindSlashes s with
  | nil =>
      have hs := replicate_leadingSlashes_append s
      rw [hbehind, List.append_nil] at hs
      refine absurd ?_ hlast
      rw [← hs, List.getLast?_replicate, if_neg]
      rintro hzero
      rw [hzero] at hs
      exact hne hs.symm
  | cons c rest =>
      rw [happend, hbehind]
      rw [hbehind] at h
      by_cases hopen : c = '['
      · subst hopen
        refine (tag?_bracket_congr ?_ ?_).mpr h
        · cases rest with
          | nil => exact hstarts
          | cons d rest => rfl
        · have happend' : firstBracket (rest ++ u) = (firstBracket rest).or (firstBracket u) :=
            List.find?_append
          refine (Eq.congr_left happend').trans ?_
          cases firstBracket rest with
          | none => exact iff_of_false hcloses (fun h => nomatch h)
          | some b => exact Iff.rfl
      · exact tag?_cons_of_ne hopen _

/-- Two texts behind each other are taken apart by themselves when the second neither starts nor
closes a tag, and the first leaves no backslash to a tag of the second. -/
theorem parts_append {s u : List Char} (hstarts : u.head?.any startsTag = false)
    (hcloses : firstBracket u ≠ some ']') (hlast : s.getLast? ≠ some '\\') :
    parts (s ++ u) = parts s ++ parts u := by
  induction s using parts_induction with
  | nil => rw [parts_nil]; rfl
  | tag n t rest ht ih =>
      have hrest : rest.getLast? ≠ some '\\' := by
        intro hend
        rw [List.getLast?_append, hend] at hlast
        exact hlast rfl
      rw [List.append_assoc, parts_write_append ht, parts_write_append ht, ih hrest]
      rfl
  | plain c s hplain ih =>
      have hrest : s.getLast? ≠ some '\\' := by
        intro hend
        rw [List.getLast?_cons, hend] at hlast
        exact hlast rfl
      have hjoined : tag? (behindSlashes (c :: (s ++ u))) = none :=
        tag?_behindSlashes_append (List.cons_ne_nil c s) hstarts hcloses hlast hplain
      rw [parts_cons_of_plain hplain, List.cons_append, parts_cons_of_plain hjoined, ih hrest]
      rfl

end Markup

end Nesting
