import Nesting.Proofs.Report.Parts

/-!
# What is seen of an escaped text

An escaped text is meant to be shown as it was before. Every tag of it is (`parts_escapedTags`,
`textOf_map_escape_append`), but two things are not. A backslash before a bracket that opens no tag
is lost, since only tags are escaped and the reader takes it for an escape (`LosesSlash`). And the
backslashes at the end are never escaped, save that a single one is doubled: that is right before a
tag, where they count half, and wrong where nothing follows. So what is shown as it is differs
between a text on its own (`IsFaithful`) and a text before a tag (`IsFaithfulBeforeTag`). These
conditions are exact: a text that misses them is seen to differ, whatever is shown behind it.
-/

namespace Nesting

namespace Markup

/-! ## A text with its tags escaped -/

/-- A text with one backslash more than twice as many in front of each tag. -/
def escapedTags (s : List Char) : List Char :=
  (parts s).flatMap fun p => p.escape.write

theorem escape_eq (s : List Char) :
    escape s = if endsInOneSlash (escapedTags s) then escapedTags s ++ ['\\'] else escapedTags s :=
  rfl

theorem escapedTags_write_append {t : List Char} (h : IsTag t) (n : Nat) (rest : List Char) :
    escapedTags ((Part.tag n t).write ++ rest) =
      (Part.tag (2 * n + 1) t).write ++ escapedTags rest := by
  rw [escapedTags, parts_write_append h, List.flatMap_cons]
  rfl

theorem escapedTags_cons_of_plain {c : Char} {s : List Char}
    (h : tag? (behindSlashes (c :: s)) = none) : escapedTags (c :: s) = c :: escapedTags s := by
  rw [escapedTags, parts_cons_of_plain h, List.flatMap_cons]
  rfl

theorem head?_write_append (n : Nat) (t rest : List Char) :
    ((Part.tag n t).write ++ rest).head?.any startsTag = false := by
  cases n <;> rfl

theorem firstBracket_write_append (n : Nat) (t rest : List Char) :
    firstBracket ((Part.tag n t).write ++ rest) = some '[' := by
  induction n with
  | zero => rfl
  | succ n ih => exact ih

theorem head?_escapedTags (s : List Char) :
    (escapedTags s).head?.any startsTag = s.head?.any startsTag := by
  rcases parts_cases s with rfl | ⟨n, t, rest, ht, rfl⟩ | ⟨c, s, hplain, rfl⟩
  · rw [escapedTags, parts_nil]
    rfl
  · rw [escapedTags_write_append ht, head?_write_append, head?_write_append]
  · rw [escapedTags_cons_of_plain hplain]
    rfl

theorem firstBracket_escapedTags (s : List Char) :
    firstBracket (escapedTags s) = firstBracket s := by
  induction s using parts_induction with
  | nil => rw [escapedTags, parts_nil]; rfl
  | tag n t rest ht =>
      rw [escapedTags_write_append ht, firstBracket_write_append, firstBracket_write_append]
  | plain c s hplain ih =>
      rw [escapedTags_cons_of_plain hplain, firstBracket, List.find?_cons, firstBracket,
        List.find?_cons]
      split
      · rfl
      · exact ih

theorem tag?_behindSlashes_escapedTags {s : List Char} (h : tag? (behindSlashes s) = none) :
    tag? (behindSlashes (escapedTags s)) = none := by
  induction s using parts_induction with
  | nil => rw [escapedTags, parts_nil]; rfl
  | tag n t rest ht =>
      rw [behindSlashes_write_append, tag?_append ht] at h
      cases h
  | plain c s hplain ih =>
      rw [escapedTags_cons_of_plain hplain]
      by_cases hslash : c = '\\'
      · subst hslash
        exact ih h
      · rw [behindSlashes_cons_of_ne hslash] at h ⊢
        by_cases hopen : c = '['
        · subst hopen
          refine (tag?_bracket_congr (head?_escapedTags s) ?_).mpr h
          rw [firstBracket_escapedTags]
        · exact tag?_cons_of_ne hopen _

theorem parts_escapedTags (s : List Char) : parts (escapedTags s) = (parts s).map Part.escape := by
  induction s using parts_induction with
  | nil => rw [escapedTags, parts_nil]; exact parts_nil
  | tag n t rest ht ih =>
      rw [escapedTags_write_append ht, parts_write_append ht, parts_write_append ht, ih]
      rfl
  | plain c s hplain ih =>
      have hescaped : tag? (behindSlashes (c :: escapedTags s)) = none := by
        rw [← escapedTags_cons_of_plain hplain]
        exact tag?_behindSlashes_escapedTags hplain
      rw [escapedTags_cons_of_plain hplain, parts_cons_of_plain hescaped,
        parts_cons_of_plain hplain, ih]
      rfl

theorem getLast?_escapedTags (s : List Char) : (escapedTags s).getLast? = s.getLast? := by
  induction s using parts_induction with
  | nil => rw [escapedTags, parts_nil]; rfl
  | tag n t rest ht ih =>
      rw [escapedTags_write_append ht, List.getLast?_append, List.getLast?_append, ih,
        getLast?_write, getLast?_write]
  | plain c s hplain ih =>
      rw [escapedTags_cons_of_plain hplain, List.getLast?_cons, List.getLast?_cons, ih]

/-! ## The plain text of parts -/

theorem textOf_cons_of_ne {c : Char} (h : c ≠ '\\') (ps : List Part) :
    textOf (.plain c :: ps) = c :: textOf ps := by
  rw [textOf]
  intro rest _ hc
  exact h hc

theorem textOf_slash_cons {ps : List Part} (h : ps.head? ≠ some (.plain '[')) :
    textOf (.plain '\\' :: ps) = '\\' :: textOf ps := by
  rw [textOf]
  intro rest htail _
  exact h (by rw [htail]; rfl)

theorem textOf_tag_cons (n : Nat) (t : List Char) (ps : List Part) :
    textOf (.tag n t :: ps) =
      List.replicate (n / 2) '\\' ++
        ((if n % 2 = 1 then '[' :: t ++ [']'] else []) ++ textOf ps) := by
  rw [textOf, List.append_assoc]

theorem textOf_escape_tag_cons (n : Nat) (t : List Char) (ps : List Part) :
    textOf ((Part.tag n t).escape :: ps) = (Part.tag n t).write ++ textOf ps := by
  have hhalf : (2 * n + 1) / 2 = n := by omega
  have hodd : (2 * n + 1) % 2 = 1 := by omega
  rw [Part.escape, textOf, hhalf, if_pos hodd, Part.write,
    List.append_assoc (List.replicate n '\\') ('[' :: t) [']']]

/-- Parts between which a run of plain characters ends. -/
def Parted (ps qs : List Part) : Prop :=
  ∀ p ∈ ps.getLast?, ∀ q ∈ qs.head?, (p.isPlain && q.isPlain) = false

theorem parted_of_tag (ps : List Part) (n : Nat) (t : List Char) (qs : List Part) :
    Parted (ps ++ [.tag n t]) qs := by
  intro p hp q _
  rw [List.getLast?_concat] at hp
  obtain rfl := Option.some.inj hp
  rfl

theorem textOf_append {ps qs : List Part} (h : Parted ps qs) :
    textOf (ps ++ qs) = textOf ps ++ textOf qs := by
  have hlater : ∀ {p : Part} {rest : List Part}, Parted (p :: rest) qs → Parted rest qs := by
    intro p rest h p' hp'
    refine h p' ?_
    rw [List.getLast?_cons, hp']
    rfl
  fun_induction textOf ps with
  | case1 => rfl
  | case2 rest ih => exact congrArg ('[' :: ·) (ih (hlater (hlater h)))
  | case3 c rest hne ih =>
      have hrest := ih (hlater h)
      by_cases hc : c = '\\'
      · subst hc
        have hhead : (rest ++ qs).head? ≠ some (.plain '[') := by
          intro hhead
          cases rest with
          | nil => cases h _ rfl _ hhead
          | cons p rest => exact hne rest (by rw [Option.some.inj hhead]) rfl
        rw [List.cons_append, textOf_slash_cons hhead, hrest]
        rfl
      · rw [List.cons_append, textOf_cons_of_ne hc, hrest]
        rfl
  | case4 n t rest ih =>
      rw [List.cons_append, textOf_tag_cons, ih (hlater h)]
      simp only [List.append_assoc]

theorem parts_cons_of_ne {c : Char} (hslash : c ≠ '\\') (hopen : c ≠ '[') (s : List Char) :
    parts (c :: s) = .plain c :: parts s := by
  refine parts_cons_of_plain ?_
  rw [behindSlashes_cons_of_ne hslash, tag?_cons_of_ne hopen]

theorem render_cons {c : Char} (hslash : c ≠ '\\') (hopen : c ≠ '[') (s : List Char) :
    render (c :: s) = c :: render s := by
  rw [render, parts_cons_of_ne hslash hopen, textOf_cons_of_ne hslash]
  rfl

theorem render_write_append {t : List Char} (h : IsTag t) (rest : List Char) :
    render ((Part.tag 0 t).write ++ rest) = render rest := by
  rw [render, parts_write_append h, textOf_tag_cons]
  rfl

/-- Texts that no markup is made of. -/
def IsMarkupFree (s : List Char) : Prop :=
  ∀ c ∈ s, c ≠ '\\' ∧ c ≠ '['

instance (s : List Char) : Decidable (IsMarkupFree s) :=
  List.decidableBAll _ s

theorem render_append_of_isMarkupFree {s : List Char} (h : IsMarkupFree s) (rest : List Char) :
    render (s ++ rest) = s ++ render rest := by
  induction s with
  | nil => rfl
  | cons c s ih =>
      obtain ⟨⟨hslash, hopen⟩, hs⟩ := List.forall_mem_cons.mp h
      rw [List.cons_append, render_cons hslash hopen, ih hs]
      rfl

/-- Whether a backslash stands before a bracket that opens no tag. -/
def Loses (ps : List Part) : Prop :=
  [.plain '\\', .plain '['] <:+: ps

theorem textOf_map_escape_cons {p : Part} {ps : List Part} (hne : p = .plain '\\' → ps ≠ [])
    (h : ¬[.plain '\\', .plain '['] <+: p :: ps) (qs : List Part) :
    textOf ((p :: ps).map Part.escape ++ qs) = p.write ++ textOf (ps.map Part.escape ++ qs) := by
  rw [List.map_cons, List.cons_append]
  cases p with
  | tag n t => exact textOf_escape_tag_cons n t _
  | plain c =>
      by_cases hc : c = '\\'
      · subst hc
        refine textOf_slash_cons fun hhead => ?_
        obtain ⟨p', ps, rfl⟩ := List.exists_cons_of_ne_nil (hne rfl)
        have hp' : p' = .plain '[' := by
          cases p' with
          | plain c => exact Option.some.inj hhead
          | tag n t => cases hhead
        exact h ⟨ps, by rw [hp']; rfl⟩
      · exact textOf_cons_of_ne hc _

theorem textOf_map_escape_append {ps : List Part} (h : ¬Loses ps)
    (hlast : ps.getLast? ≠ some (.plain '\\')) (qs : List Part) :
    textOf (ps.map Part.escape ++ qs) = ps.flatMap Part.write ++ textOf qs := by
  induction ps with
  | nil => rfl
  | cons p ps ih =>
      rw [Loses, List.infix_cons_iff, not_or] at h
      obtain ⟨hfirst, htail⟩ := h
      have hne : p = .plain '\\' → ps ≠ [] := by
        rintro rfl rfl
        exact hlast rfl
      have hlast' : ps.getLast? ≠ some (.plain '\\') := by
        intro hend
        rw [List.getLast?_cons, hend] at hlast
        exact hlast rfl
      rw [textOf_map_escape_cons hne hfirst, ih htail hlast', List.flatMap_cons, List.append_assoc]

/-- Where a backslash is lost, the bracket behind it is shown in its place. -/
theorem exists_of_loses {ps : List Part} (h : Loses ps) :
    ∃ u v, ps.flatMap Part.write = u ++ '\\' :: v
      ∧ ∀ qs, ∃ w, textOf (ps.map Part.escape ++ qs) = u ++ '[' :: w := by
  induction ps with
  | nil => exact absurd h (by simp [Loses])
  | cons p ps ih =>
      by_cases hfirst : [.plain '\\', .plain '['] <+: p :: ps
      · obtain ⟨rest, hrest⟩ := hfirst
        obtain ⟨rfl, rfl⟩ := List.cons.inj hrest
        exact ⟨[], _, rfl, fun qs => ⟨_, rfl⟩⟩
      · have htail : Loses ps := (List.infix_cons_iff.mp h).resolve_left hfirst
        have hne : p = .plain '\\' → ps ≠ [] := by
          rintro - rfl
          exact absurd htail (by simp [Loses])
        obtain ⟨u, v, hwrite, hshown⟩ := ih htail
        refine ⟨p.write ++ u, v, ?_, fun qs => ?_⟩
        · rw [List.flatMap_cons, hwrite, List.append_assoc]
        · obtain ⟨w, hw⟩ := hshown qs
          exact ⟨w, by rw [textOf_map_escape_cons hne hfirst, hw, List.append_assoc]⟩

/-! ## Backslashes that are lost -/

/-- Whether a text has a backslash before a bracket that opens no tag. -/
def LosesSlash (s : List Char) : Prop :=
  ∃ t ∈ s.tails, ['\\', '['] <+: t ∧ tag? t.tail = none

instance (s : List Char) : Decidable (LosesSlash s) :=
  inferInstanceAs (Decidable (∃ t ∈ s.tails, _))

theorem losesSlash_cons {c : Char} {s : List Char} :
    LosesSlash (c :: s) ↔ (['\\', '['] <+: c :: s ∧ tag? s = none) ∨ LosesSlash s := by
  rw [LosesSlash, List.tails_cons]
  simp only [List.mem_cons, exists_eq_or_imp]
  exact Iff.rfl

theorem losesSlash_cons_of_not_prefix {c : Char} {s : List Char} (h : ¬['\\', '['] <+: c :: s) :
    LosesSlash (c :: s) ↔ LosesSlash s := by
  rw [losesSlash_cons, or_iff_right]
  exact fun hlost => h hlost.1

theorem losesSlash_inside_tag {t : List Char} (h : ∀ c ∈ t, c ≠ '[' ∧ c ≠ ']')
    (rest : List Char) : LosesSlash (t ++ ']' :: rest) ↔ LosesSlash rest := by
  induction t with
  | nil => exact losesSlash_cons_of_not_prefix (by simp)
  | cons c t ih =>
      obtain ⟨-, ht⟩ := List.forall_mem_cons.mp h
      rw [List.cons_append, losesSlash_cons_of_not_prefix, ih ht]
      cases t with
      | nil => simp
      | cons d t => simp [(List.forall_mem_cons.mp ht).1.1.symm]

theorem losesSlash_write_append {t : List Char} (ht : IsTag t) (n : Nat) (rest : List Char) :
    LosesSlash ((Part.tag n t).write ++ rest) ↔ LosesSlash rest := by
  have hopened : LosesSlash ('[' :: t ++ ']' :: rest) ↔ LosesSlash rest := by
    rw [List.cons_append, losesSlash_cons_of_not_prefix (by simp), losesSlash_inside_tag ht.2]
  have hslashes : LosesSlash (List.replicate n '\\' ++ ('[' :: t ++ ']' :: rest)) ↔
      LosesSlash rest := by
    induction n with
    | zero => exact hopened
    | succ n ih =>
        rw [List.replicate_succ, List.cons_append, losesSlash_cons, ih, or_iff_right]
        rintro ⟨hstart, htag⟩
        cases n with
        | zero => cases htag.symm.trans (tag?_append ht rest)
        | succ n => simp [List.replicate_succ] at hstart
  simpa [Part.write] using hslashes

/-- The brackets that open no tag are those that are parts of their own. -/
theorem losesSlash_iff {s : List Char} : LosesSlash s ↔ Loses (parts s) := by
  induction s using parts_induction with
  | nil => simp [LosesSlash, Loses, parts_nil]
  | tag n t rest ht ih =>
      rw [losesSlash_write_append ht, ih, parts_write_append ht, Loses, Loses,
        List.infix_cons_iff, or_iff_right]
      rintro ⟨ps, hps⟩
      cases hps
  | plain c s hplain ih =>
      rw [losesSlash_cons, ih, parts_cons_of_plain hplain, Loses, Loses, List.infix_cons_iff]
      refine or_congr_left ⟨?_, ?_⟩
      · rintro ⟨⟨s', hs⟩, htag⟩
        obtain ⟨rfl, rfl⟩ := List.cons.inj hs
        have hopen : tag? (behindSlashes ('[' :: s')) = none := by
          rw [behindSlashes_cons_of_ne (by decide)]
          exact htag
        refine ⟨parts s', ?_⟩
        change _ = _ :: parts ('[' :: s')
        rw [parts_cons_of_plain hopen]
        rfl
      · rintro ⟨ps, hps⟩
        obtain ⟨hc, hrest⟩ := List.cons.inj hps
        obtain rfl := Part.plain.inj hc
        cases htag : tag? (behindSlashes s) with
        | some found =>
            rw [parts_of_tag? htag] at hrest
            cases hrest
        | none =>
            cases s with
            | nil =>
                rw [parts_nil] at hrest
                cases hrest
            | cons d s =>
                rw [parts_cons_of_plain htag] at hrest
                obtain rfl := Part.plain.inj (List.cons.inj hrest).1
                exact ⟨⟨s, rfl⟩, htag⟩

/-! ## The backslashes at the end -/

/-- How many backslashes a text ends in. -/
def slashesAtEnd (s : List Char) : Nat :=
  leadingSlashes s.reverse

theorem slashesAtEnd_append_replicate {y : List Char} (h : y.getLast? ≠ some '\\') (n : Nat) :
    slashesAtEnd (y ++ List.replicate n '\\') = n := by
  rw [slashesAtEnd, List.reverse_append, List.reverse_replicate]
  refine leadingSlashes_replicate_append n ?_
  rwa [List.head?_reverse]

theorem head?_replicate_slash (n : Nat) :
    (List.replicate n '\\').head?.any startsTag = false := by
  cases n <;> rfl

theorem behindSlashes_replicate (n : Nat) : behindSlashes (List.replicate n '\\') = [] := by
  induction n with
  | zero => rfl
  | succ n ih => exact ih

theorem firstBracket_replicate (n : Nat) : firstBracket (List.replicate n '\\') = none := by
  induction n with
  | zero => rfl
  | succ n ih => exact ih

theorem parts_replicate (n : Nat) :
    parts (List.replicate n '\\') = List.replicate n (.plain '\\') := by
  induction n with
  | zero => exact parts_nil
  | succ n ih =>
      have hplain : tag? (behindSlashes ('\\' :: List.replicate n '\\')) = none := by
        rw [behindSlashes_slash_cons, behindSlashes_replicate]
        rfl
      rw [List.replicate_succ, parts_cons_of_plain hplain, ih, List.replicate_succ]

theorem parts_append_replicate {y : List Char} (h : y.getLast? ≠ some '\\') (n : Nat) :
    parts (y ++ List.replicate n '\\') = parts y ++ List.replicate n (.plain '\\') := by
  have hcloses : firstBracket (List.replicate n '\\') ≠ some ']' := by
    rw [firstBracket_replicate]
    exact fun hnone => nomatch hnone
  rw [parts_append (head?_replicate_slash n) hcloses h, parts_replicate]

/-- The backslashes that are written for those at the end of a text. -/
def slashesWritten (n : Nat) : Nat :=
  if n = 1 then 2 else n

theorem flatMap_escape_replicate (n : Nat) :
    ((List.replicate n (Part.plain '\\')).flatMap fun p => p.escape.write) =
      List.replicate n '\\' := by
  induction n with
  | zero => rfl
  | succ n ih => rw [List.replicate_succ, List.flatMap_cons, ih]; rfl

theorem escape_append_replicate {y : List Char} (h : y.getLast? ≠ some '\\') (n : Nat) :
    escape (y ++ List.replicate n '\\') =
      escapedTags y ++ List.replicate (slashesWritten n) '\\' := by
  have htags : escapedTags (y ++ List.replicate n '\\') =
      escapedTags y ++ List.replicate n '\\' := by
    rw [escapedTags, parts_append_replicate h, List.flatMap_append, flatMap_escape_replicate]
    rfl
  have hend : endsInOneSlash (escapedTags y ++ List.replicate n '\\') = (n == 1) := by
    have hlast : (escapedTags y).getLast? ≠ some '\\' := by
      rw [getLast?_escapedTags]
      exact h
    exact congrArg (· == 1) (slashesAtEnd_append_replicate hlast n)
  rw [escape_eq, htags, hend, slashesWritten]
  by_cases hone : n = 1
  · subst hone
    rw [if_pos (beq_self_eq_true 1), if_pos rfl, List.append_assoc]
    rfl
  · rw [if_neg (by simpa using hone), if_neg hone]

theorem textOf_replicate (n : Nat) :
    textOf (List.replicate n (.plain '\\')) = List.replicate n '\\' := by
  induction n with
  | zero => rfl
  | succ n ih =>
      have hhead : (List.replicate n (Part.plain '\\')).head? ≠ some (.plain '[') := by
        cases n with
        | zero => exact fun heq => nomatch heq
        | succ n => exact fun heq => nomatch heq
      rw [List.replicate_succ, textOf_slash_cons hhead, ih]
      rfl

theorem losesSlash_append_replicate {y : List Char} (h : y.getLast? ≠ some '\\') (n : Nat) :
    LosesSlash (y ++ List.replicate n '\\') ↔ LosesSlash y := by
  rw [losesSlash_iff, losesSlash_iff, parts_append_replicate h, Loses, Loses]
  induction n with
  | zero => rw [List.replicate_zero, List.append_nil]
  | succ n ih =>
      rw [List.replicate_succ', ← List.append_assoc, List.infix_concat_iff, ih, or_iff_right]
      rintro ⟨ps, hps⟩
      have hlast := congrArg List.getLast? hps
      rw [List.getLast?_concat, List.getLast?_append_of_ne_nil _ (List.cons_ne_nil _ _)] at hlast
      cases hlast

/-- A text is what stands before the backslashes at its end, and these. None of them is lost. -/
theorem exists_eq_append_replicate (s : List Char) :
    ∃ y, s = y ++ List.replicate (slashesAtEnd s) '\\' ∧ y.getLast? ≠ some '\\'
      ∧ (LosesSlash s ↔ LosesSlash y) := by
  have hs : s = (behindSlashes s.reverse).reverse ++ List.replicate (slashesAtEnd s) '\\' := by
    have hreverse := congrArg List.reverse (replicate_leadingSlashes_append s.reverse)
    rw [List.reverse_append, List.reverse_replicate, List.reverse_reverse] at hreverse
    exact hreverse.symm
  have hlast : (behindSlashes s.reverse).reverse.getLast? ≠ some '\\' := by
    rw [List.getLast?_reverse]
    exact head?_behindSlashes s.reverse
  refine ⟨_, hs, hlast, ?_⟩
  rw [← losesSlash_append_replicate hlast (slashesAtEnd s), ← hs]

/-! ## What a reader sees of an escaped text -/

/-- An escaped text on its own, and what stands behind it. -/
theorem render_escape_append_replicate {y : List Char} (h : y.getLast? ≠ some '\\') (n : Nat) :
    render (escape (y ++ List.replicate n '\\')) =
      textOf ((parts y).map Part.escape ++ List.replicate (slashesWritten n) (.plain '\\')) := by
  have hlast : (escapedTags y).getLast? ≠ some '\\' := by
    rw [getLast?_escapedTags]
    exact h
  rw [render, escape_append_replicate h, parts_append_replicate hlast, parts_escapedTags]

/-- The backslashes at the end of an escaped text are taken for those of a tag behind it. -/
theorem parts_escape_append_replicate_write {y t : List Char} (h : y.getLast? ≠ some '\\')
    (ht : IsTag t) (n : Nat) (rest : List Char) :
    parts (escape (y ++ List.replicate n '\\') ++ ((Part.tag 0 t).write ++ rest)) =
      (parts y).map Part.escape ++ .tag (slashesWritten n) t :: parts rest := by
  have hlast : (escapedTags y).getLast? ≠ some '\\' := by
    rw [getLast?_escapedTags]
    exact h
  have hwrite : List.replicate (slashesWritten n) '\\' ++ ((Part.tag 0 t).write ++ rest) =
      (Part.tag (slashesWritten n) t).write ++ rest := by
    simp [Part.write]
  have hopens : firstBracket ((Part.tag (slashesWritten n) t).write ++ rest) ≠ some ']' := by
    rw [firstBracket_write_append]
    decide
  rw [escape_append_replicate h, List.append_assoc, hwrite,
    parts_append (head?_write_append _ _ _) hopens hlast, parts_escapedTags,
    parts_write_append ht]

theorem render_escape_append_replicate_write {y t : List Char} (h : y.getLast? ≠ some '\\')
    (ht : IsTag t) (n : Nat) (rest : List Char) :
    render (escape (y ++ List.replicate n '\\') ++ ((Part.tag 0 t).write ++ rest)) =
      textOf ((parts y).map Part.escape ++ .tag (slashesWritten n) t :: parts rest) :=
  congrArg textOf (parts_escape_append_replicate_write h ht n rest)

/-- Texts that are shown as they are when they are escaped. -/
structure IsFaithful (s : List Char) : Prop where
  keeps : ¬LosesSlash s
  ends : slashesAtEnd s ≠ 1

/-- Texts that are shown as they are when they are escaped and a tag stands behind them. -/
structure IsFaithfulBeforeTag (s : List Char) : Prop where
  keeps : ¬LosesSlash s
  ends : slashesAtEnd s ≤ 1

instance (s : List Char) : Decidable (IsFaithful s) :=
  decidable_of_iff (¬LosesSlash s ∧ slashesAtEnd s ≠ 1)
    ⟨fun h => ⟨h.1, h.2⟩, fun h => ⟨h.keeps, h.ends⟩⟩

instance (s : List Char) : Decidable (IsFaithfulBeforeTag s) :=
  decidable_of_iff (¬LosesSlash s ∧ slashesAtEnd s ≤ 1)
    ⟨fun h => ⟨h.1, h.2⟩, fun h => ⟨h.keeps, h.ends⟩⟩

theorem not_prefix_of_losesSlash {y : List Char} (h : LosesSlash y) (x : List Char)
    (qs : List Part) (z : List Char) :
    ¬y ++ x <+: textOf ((parts y).map Part.escape ++ qs) ++ z := by
  obtain ⟨u, v, hwrite, hshown⟩ := exists_of_loses (losesSlash_iff.mp h)
  obtain ⟨w, hw⟩ := hshown qs
  rw [write_parts] at hwrite
  rw [hw, hwrite, List.append_assoc, List.append_assoc, List.prefix_append_right_inj]
  rintro ⟨rest, hrest⟩
  cases hrest

theorem textOf_map_escape_append_of_keeps {y : List Char} (hlast : y.getLast? ≠ some '\\')
    (h : ¬LosesSlash y) (qs : List Part) :
    textOf ((parts y).map Part.escape ++ qs) = y ++ textOf qs := by
  have hplain : (parts y).getLast? ≠ some (.plain '\\') := by
    intro hend
    obtain ⟨ps, hps⟩ := List.getLast?_eq_some_iff.mp hend
    refine hlast ?_
    rw [← write_parts y, hps, List.flatMap_append]
    exact List.getLast?_concat
  rw [textOf_map_escape_append (losesSlash_iff.not.mp h) hplain, write_parts]

theorem render_escape {s : List Char} (h : IsFaithful s) : render (escape s) = s := by
  obtain ⟨y, hs, hlast, hiff⟩ := exists_eq_append_replicate s
  have hkeeps : ¬LosesSlash y := hiff.not.mp h.keeps
  have hwritten : slashesWritten (slashesAtEnd s) = slashesAtEnd s := if_neg h.ends
  have hrender := render_escape_append_replicate hlast (slashesAtEnd s)
  rwa [← hs, hwritten, textOf_map_escape_append_of_keeps hlast hkeeps, textOf_replicate, ← hs]
    at hrender

/-- A text that is not shown as it is already differs within its own length, or goes on with one
more backslash. -/
theorem not_prefix_of_not_isFaithful {s : List Char} (h : ¬IsFaithful s) {c : Char} (hc : c ≠ '\\')
    (z : List Char) : ¬s ++ [c] <+: render (escape s) ++ z := by
  obtain ⟨y, hs, hlast, hiff⟩ := exists_eq_append_replicate s
  have hrender := render_escape_append_replicate hlast (slashesAtEnd s)
  rw [← hs] at hrender
  by_cases hloses : LosesSlash y
  · rw [hrender, hs, List.append_assoc]
    exact not_prefix_of_losesSlash hloses _ _ z
  · have hends : slashesAtEnd s = 1 := by
      by_contra hends
      exact h ⟨hiff.not.mpr hloses, hends⟩
    rw [hends] at hs hrender
    rw [hrender, hs, textOf_map_escape_append_of_keeps hlast hloses, List.append_assoc,
      List.append_assoc, List.prefix_append_right_inj]
    rintro ⟨rest, hrest⟩
    exact hc (List.cons.inj (List.cons.inj hrest).2).1

theorem not_replicate_prefix {n k : Nat} (h : k < n) {a : Char} {z : List Char}
    (hz : z.head? ≠ some a) : ¬List.replicate n a <+: List.replicate k a ++ z := by
  obtain ⟨d, rfl⟩ := Nat.exists_eq_add_of_lt h
  rw [Nat.add_assoc, List.replicate_add, List.prefix_append_right_inj]
  rintro ⟨rest, rfl⟩
  exact hz rfl

theorem render_escape_append_write {s t : List Char} (h : IsFaithfulBeforeTag s) (ht : IsTag t) :
    render (escape s ++ (Part.tag 0 t).write) = s := by
  obtain ⟨y, hs, hlast, hiff⟩ := exists_eq_append_replicate s
  have hkeeps : ¬LosesSlash y := hiff.not.mp h.keeps
  have hhalf : slashesWritten (slashesAtEnd s) / 2 = slashesAtEnd s
      ∧ slashesWritten (slashesAtEnd s) % 2 ≠ 1 := by
    have hends := h.ends
    rw [slashesWritten]
    split <;> omega
  have hrender := render_escape_append_replicate_write hlast ht (slashesAtEnd s) []
  rwa [← hs, List.append_nil, parts_nil, textOf_map_escape_append_of_keeps hlast hkeeps,
    textOf_tag_cons, hhalf.1, if_neg hhalf.2, textOf, List.append_nil, List.append_nil,
    ← hs] at hrender

theorem not_prefix_of_not_isFaithfulBeforeTag {s t : List Char} (h : ¬IsFaithfulBeforeTag s)
    (ht : IsTag t) {z : List Char} (hz : z.head? ≠ some '\\') :
    ¬s <+: render (escape s ++ (Part.tag 0 t).write) ++ z := by
  obtain ⟨y, hs, hlast, hiff⟩ := exists_eq_append_replicate s
  have hrender := render_escape_append_replicate_write hlast ht (slashesAtEnd s) []
  rw [← hs, List.append_nil, parts_nil] at hrender
  by_cases hloses : LosesSlash y
  · have hnot := not_prefix_of_losesSlash hloses (List.replicate (slashesAtEnd s) '\\')
      [.tag (slashesWritten (slashesAtEnd s)) t] z
    rwa [← hs, ← hrender] at hnot
  · have hends : 1 < slashesAtEnd s := by
      by_contra hends
      exact h ⟨hiff.not.mpr hloses, by omega⟩
    have hwritten : slashesWritten (slashesAtEnd s) = slashesAtEnd s := if_neg (by omega)
    rw [hrender, textOf_map_escape_append_of_keeps hlast hloses, textOf_tag_cons, hwritten, textOf,
      List.append_nil, List.append_assoc, List.append_assoc]
    conv => enter [1, 1]; rw [hs]
    rw [List.prefix_append_right_inj]
    refine not_replicate_prefix (by omega) ?_
    split
    · change some '[' ≠ some '\\'
      decide
    · exact hz

/-! ## The characters that are seen -/

theorem mem_of_mem_textOf {c : Char} {ps : List Part} (h : c ∈ textOf ps) :
    c ∈ ps.flatMap Part.write := by
  fun_induction textOf ps with
  | case1 => exact h
  | case2 rest ih =>
      rcases List.mem_cons.mp h with rfl | hrest
      · exact List.mem_cons_of_mem _ List.mem_cons_self
      · exact List.mem_cons_of_mem _ (List.mem_cons_of_mem _ (ih hrest))
  | case3 c' rest hne ih =>
      rcases List.mem_cons.mp h with rfl | hrest
      · exact List.mem_cons_self
      · exact List.mem_cons_of_mem _ (ih hrest)
  | case4 n t rest ih =>
      rw [List.flatMap_cons]
      rcases List.mem_append.mp h with hpart | hrest
      · refine List.mem_append_left _ ?_
        rw [Part.write, List.append_assoc]
        rcases List.mem_append.mp hpart with hslash | htext
        · obtain ⟨hn, rfl⟩ := List.mem_replicate.mp hslash
          exact List.mem_append_left _ (List.mem_replicate.mpr ⟨by omega, rfl⟩)
        · split at htext
          · exact List.mem_append_right _ htext
          · cases htext
      · exact List.mem_append_right _ (ih hrest)

theorem mem_of_mem_render {c : Char} {s : List Char} (h : c ∈ render s) : c ∈ s := by
  rw [← write_parts s]
  exact mem_of_mem_textOf h

theorem mem_of_mem_escape {c : Char} {s : List Char} (h : c ∈ escape s) : c ∈ s ∨ c = '\\' := by
  have htags : ∀ c ∈ escapedTags s, c ∈ s ∨ c = '\\' := by
    intro c hc
    obtain ⟨p, hp, hcp⟩ := List.mem_flatMap.mp hc
    conv => enter [1]; rw [← write_parts s]
    cases p with
    | plain c' => exact Or.inl (List.mem_flatMap.mpr ⟨_, hp, hcp⟩)
    | tag n t =>
        rw [Part.escape, Part.write, List.append_assoc] at hcp
        rcases List.mem_append.mp hcp with hslash | htext
        · exact Or.inr (List.mem_replicate.mp hslash).2
        · refine Or.inl (List.mem_flatMap.mpr ⟨_, hp, ?_⟩)
          rw [Part.write, List.append_assoc]
          exact List.mem_append_right _ htext
  rw [escape_eq] at h
  split at h
  · rcases List.mem_append.mp h with h | h
    · exact htags c h
    · exact Or.inr (List.mem_singleton.mp h)
  · exact htags c h

end Markup

end Nesting
