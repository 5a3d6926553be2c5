import Mathlib.Data.List.TakeWhile
import Nesting.Line

/-!
# Margins and depths

What stands behind the margin has no part in it: a line without a margin of its own (`Line.IsFlush`)
can be put behind any other without changing lead, margin or depth (`lead_append`, `margin_append`,
`depth_append`). The columns of a margin are its tabs, a unit each, and its spaces (`columns_eq`),
so a tab is a level whatever the unit is (`depth_eq`).
-/

namespace Nesting

namespace Line

/-- A line that starts with no margin. -/
def IsFlush (l : Line) : Prop :=
  ∀ c ∈ l.head?, isMargin c = false

instance (l : Line) : Decidable (IsFlush l) :=
  decidable_of_iff (l.head?.all fun c => !isMargin c) (by cases l <;> simp [IsFlush])

theorem isFlush_cons {c : Char} {l : Line} : IsFlush (c :: l) ↔ isMargin c = false := by
  simp [IsFlush]

/-! ## What stands behind the margin -/

theorem takeWhile_append_of_head {p : Char → Bool} {s : Line} (h : ∀ c ∈ s.head?, p c = false)
    (l : Line) : (l ++ s).takeWhile p = l.takeWhile p := by
  induction l with
  | nil =>
      cases s with
      | nil => rfl
      | cons c s => simp [h c rfl]
  | cons c l ih =>
      rw [List.cons_append, List.takeWhile_cons, List.takeWhile_cons, ih]

theorem margin_append {s : Line} (h : IsFlush s) (l : Line) : margin (l ++ s) = margin l :=
  takeWhile_append_of_head h l

theorem lead_of_isFlush {s : Line} (h : IsFlush s) : lead s = none := by
  cases s with
  | nil => rfl
  | cons c s =>
      have hc : isMargin c = false := isFlush_cons.mp h
      rw [lead]
      · intro rest heq
        obtain ⟨rfl, -⟩ := List.cons.inj heq
        exact absurd hc (by decide)
      · intro rest heq
        obtain ⟨rfl, -⟩ := List.cons.inj heq
        exact absurd hc (by decide)

theorem lead_append {s : Line} (h : IsFlush s) (l : Line) : lead (l ++ s) = lead l := by
  have hspace : ∀ c ∈ s.head?, (c == ' ') = false := fun c hc =>
    (Bool.or_eq_false_iff.mp (h c hc)).1
  have htab : ∀ c ∈ s.head?, (c == '\t') = false := fun c hc =>
    (Bool.or_eq_false_iff.mp (h c hc)).2
  cases l with
  | nil => exact lead_of_isFlush h
  | cons c l =>
      rw [List.cons_append]
      by_cases hc : c = ' '
      · subst hc
        rw [lead, lead, takeWhile_append_of_head hspace]
      · by_cases ht : c = '\t'
        · subst ht
          rw [lead, lead, takeWhile_append_of_head htab]
        · have hflush : ∀ rest, IsFlush (c :: rest) := fun rest =>
            isFlush_cons.mpr (by simp [isMargin, hc, ht])
          rw [lead_of_isFlush (hflush _), lead_of_isFlush (hflush _)]

theorem depth_append {s : Line} (h : IsFlush s) (unit : Int) (l : Line) :
    depth unit (l ++ s) = depth unit l := by
  rw [depth, columns, margin_append h, depth, columns]

/-! ## What a line starts with -/

theorem isMargin_iff {c : Char} : isMargin c = true ↔ ∃ k : Margin, c = k.char := by
  rw [isMargin, Bool.or_eq_true, beq_iff_eq, beq_iff_eq]
  constructor
  · rintro (rfl | rfl)
    · exact ⟨.space, rfl⟩
    · exact ⟨.tab, rfl⟩
  · rintro ⟨k, rfl⟩
    cases k
    · exact Or.inl rfl
    · exact Or.inr rfl

theorem lead_char_cons (k : Margin) (rest : Line) :
    lead (k.char :: rest) = some ⟨k, (rest.takeWhile (· == k.char)).length + 1⟩ := by
  cases k <;> rfl

theorem isFlush_or_exists (l : Line) :
    IsFlush l ∨ ∃ (k : Margin) (rest : Line), l = k.char :: rest := by
  cases l with
  | nil =>
      left
      intro c hc
      cases hc
  | cons c rest =>
      by_cases h : isMargin c = true
      · obtain ⟨k, rfl⟩ := isMargin_iff.mp h
        exact Or.inr ⟨k, rest, rfl⟩
      · exact Or.inl (isFlush_cons.mpr (Bool.eq_false_iff.mpr h))

/-- A line has no lead just when it starts with no margin. -/
theorem lead_eq_none_iff {l : Line} : lead l = none ↔ IsFlush l := by
  constructor
  · intro h
    rcases isFlush_or_exists l with hflush | ⟨k, rest, rfl⟩
    · exact hflush
    · rw [lead_char_cons] at h
      cases h
  · exact lead_of_isFlush

theorem not_isFlush_of_lead {l : Line} {r : Run} (h : lead l = some r) : ¬IsFlush l := by
  rw [← lead_eq_none_iff, h]
  exact Option.some_ne_none r

/-- A line starts with as many characters of the kind of its lead as the lead is long. -/
theorem exists_of_lead_eq_some {l : Line} {r : Run} (h : lead l = some r) :
    ∃ rest, l = List.replicate r.length r.kind.char ++ rest := by
  rcases isFlush_or_exists l with hflush | ⟨k, rest, rfl⟩
  · exact absurd hflush (not_isFlush_of_lead h)
  · rw [lead_char_cons] at h
    obtain rfl := Option.some.inj h
    have hrun : rest.takeWhile (· == k.char) =
        List.replicate (rest.takeWhile (· == k.char)).length k.char := by
      refine List.eq_replicate_iff.mpr ⟨rfl, fun c hc => ?_⟩
      have hkind := List.mem_takeWhile_imp hc
      exact beq_iff_eq.mp hkind
    refine ⟨rest.dropWhile (· == k.char), ?_⟩
    rw [List.replicate_succ, ← hrun, List.cons_append, List.takeWhile_append_dropWhile]

theorem length_pos_of_lead {l : Line} {r : Run} (h : lead l = some r) : 0 < r.length := by
  rw [lead.eq_def] at h
  split at h
  · obtain rfl := Option.some.inj h
    exact Nat.succ_pos _
  · obtain rfl := Option.some.inj h
    exact Nat.succ_pos _
  · cases h

theorem isFlush_of_not_isMargin {c : Char} (h : isMargin c = false) : IsFlush [c] :=
  isFlush_cons.mpr h

/-! ## Margins of one kind -/

theorem isMargin_char (k : Margin) : isMargin k.char = true := by
  cases k <;> rfl

theorem isMargin_of_mem_replicate (k : Margin) (n : Nat) :
    ∀ c ∈ List.replicate n k.char, isMargin c = true := by
  intro c hc
  rw [List.eq_of_mem_replicate hc]
  exact isMargin_char k

theorem margin_replicate (k : Margin) (n : Nat) :
    margin (List.replicate n k.char) = List.replicate n k.char := by
  rw [margin, List.takeWhile_replicate, if_pos (isMargin_char k)]

theorem lead_replicate_succ (k : Margin) (n : Nat) :
    lead (List.replicate (n + 1) k.char) = some ⟨k, n + 1⟩ := by
  cases k <;> simp [lead, Margin.char, List.replicate_succ]

/-! ## Tabs and spaces -/

theorem mem_margin_iff {c : Char} {m : Line} (h : ∀ c ∈ m, isMargin c = true) (hc : c ∈ m) :
    c = '\t' ∨ c = ' ' := by
  have hmargin := h c hc
  rw [isMargin, Bool.or_eq_true, beq_iff_eq, beq_iff_eq] at hmargin
  exact hmargin.symm

theorem isMargin_of_mem_margin {l : Line} : ∀ c ∈ l.margin, isMargin c = true :=
  fun _ hc => List.mem_takeWhile_imp hc

/-- A tab takes up a unit of columns, a space one. -/
theorem sum_columns {m : Line} (h : ∀ c ∈ m, isMargin c = true) (unit : Int) :
    m.foldr (fun c n => (if c = '\t' then unit else 1) + n) 0 =
      m.count '\t' * unit + m.count ' ' := by
  induction m with
  | nil => simp
  | cons c m ih =>
      obtain ⟨hc, hm⟩ := List.forall_mem_cons.mp h
      rw [List.foldr_cons, ih hm]
      rcases mem_margin_iff h List.mem_cons_self with rfl | rfl
      · rw [if_pos rfl, List.count_cons_self, List.count_cons_of_ne (by decide)]
        push_cast
        rw [Int.add_mul, Int.one_mul]
        omega
      · rw [if_neg (by decide), List.count_cons_self, List.count_cons_of_ne (by decide)]
        push_cast
        omega

/-- Whatever is in a margin is a tab or a space. -/
theorem marginTabs_add_marginSpaces (l : Line) :
    l.marginTabs + l.marginSpaces = l.margin.length := by
  rw [List.length_eq_countP_add_countP (· == '\t'), marginTabs, marginSpaces, List.count,
    List.count]
  congr 1
  refine List.countP_congr fun c hc => ?_
  rcases mem_margin_iff isMargin_of_mem_margin hc with rfl | rfl <;> decide

/-- The margin of a line holds its lead. -/
theorem length_le_count_margin {l : Line} {r : Run} (h : lead l = some r) :
    r.length ≤ l.margin.count r.kind.char := by
  obtain ⟨rest, hl⟩ := exists_of_lead_eq_some h
  rw [hl, margin, List.takeWhile_append_of_pos (isMargin_of_mem_replicate r.kind r.length),
    List.count_append, List.count_replicate_self]
  exact Nat.le_add_right _ _

theorem columns_eq (unit : Int) (l : Line) :
    l.columns unit = l.marginTabs * unit + l.marginSpaces :=
  sum_columns isMargin_of_mem_margin unit

/-- Each tab of the margin is a level; spaces make a level by the unit. -/
theorem depth_eq {unit : Int} (h : unit ≠ 0) (l : Line) :
    l.depth unit = l.marginTabs + (l.marginSpaces : Int).fdiv unit := by
  rw [depth, columns_eq, Int.mul_add_fdiv_right _ _ h, Int.add_comm]

theorem length_margin_le (l : Line) : l.margin.length ≤ l.length :=
  (List.takeWhile_sublist isMargin).length_le

/-- A line is no deeper than its margin is long. -/
theorem depth_bounds {unit : Int} (h : 0 < unit) (l : Line) :
    0 ≤ l.depth unit ∧ l.depth unit ≤ l.margin.length := by
  have hmargin := marginTabs_add_marginSpaces l
  have hfdiv : (l.marginSpaces : Int).fdiv unit = l.marginSpaces / unit :=
    Int.fdiv_eq_ediv_of_nonneg _ (Int.le_of_lt h)
  have hnonneg : 0 ≤ (l.marginSpaces : Int) / unit := Int.ediv_nonneg (by omega) (by omega)
  have hself : (l.marginSpaces : Int) / unit ≤ l.marginSpaces := Int.ediv_le_self _ (by omega)
  rw [depth_eq (by omega), hfdiv]
  omega

end Line

end Nesting
