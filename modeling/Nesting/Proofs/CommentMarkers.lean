import Mathlib.Data.List.Basic
import Nesting.Comment

/-!
# The default pattern is a test of markers

The default pattern is matched by a search: at every place of the line, for every number of blanks,
with every marker in turn. `occursIn_defaultPattern` is what the search finds: whether the line,
without the blanks it starts with, starts with a marker. The anchor leaves only the first place
(`matchFrom_defaultPattern_of_ne_nil`), and since no marker starts with a blank, only the longest
run of blanks leads to one (`isSome_greedy_blank`).

So the default pattern sees nothing of a line but what its blanks leave (`drops_congr`).
-/

namespace Nesting

/-! ## Goals that look ahead -/

namespace Goal

/-- A goal that is met depending only on the text ahead. -/
def Tests (k : Goal) (P : List Char → Bool) : Prop :=
  ∀ p : Place, (k p).isSome = P p.after

theorem isSome_orElse (o o' : Option Place) : (o <|> o').isSome = (o.isSome || o'.isSome) := by
  cases o <;> rfl

theorem tests_here : Tests here fun _ => true := fun _ => rfl

theorem Tests.capture {k : Goal} {P : List Char → Bool} (h : Tests k P) (p : Place)
    (group : Nat) : Tests (fun q => k (p.capture q group)) P :=
  fun q => h (p.capture q group)

end Goal

namespace Tree

theorem holds_code (c d : Char) : (CharSet.code c.toNat).holds {} d = (c == d) := by
  have hiff : d.toNat = c.toNat ↔ c = d := by rw [Char.toNat_inj, eq_comm]
  have hbool : ∀ b : Bool, ((b || false) != false) = b := by decide
  show ((d.toNat == c.toNat || false) != false) = (c == d)
  rw [hbool, Bool.eq_iff_iff, beq_iff_eq, beq_iff_eq, hiff]

theorem holds_blank (c : Char) :
    (CharSet.items false [.category .blank false]).holds {} c = isBlank c := by
  simp [CharSet.holds, SetItem.holds, Category.holds]

theorem matchAt_seqOf_cons (t : Tree) (ts : List Tree) (f : Flags) (p : Place) (k : Goal) :
    (Reading.seqOf (t :: ts)).matchAt f p k =
      t.matchAt f p fun q => (Reading.seqOf ts).matchAt f q k := by
  cases ts <;> rfl

theorem isSome_matchAt_code {k : Goal} {P : List Char → Bool} (h : k.Tests P) (c : Char)
    (p : Place) :
    ((Tree.one (.code c.toNat)).matchAt {} p k).isSome =
      match p.after with
      | [] => false
      | d :: rest => c == d && P rest := by
  rw [matchAt]
  cases hafter : p.after with
  | nil => rfl
  | cons d rest =>
      simp only [holds_code]
      cases c == d with
      | false => rfl
      | true => exact h (p.step d rest)

/-- A text is matched when it comes next and the goal is met behind it. -/
theorem isSome_matchAt_literal {k : Goal} {P : List Char → Bool} (h : k.Tests P)
    (s : List Char) (p : Place) :
    ((literal s).matchAt {} p k).isSome =
      (s.isPrefixOf p.after && P (p.after.drop s.length)) := by
  induction s generalizing p with
  | nil => exact h p
  | cons c s ih =>
      have htests : Goal.Tests (fun q => (literal s).matchAt {} q k)
          fun text => s.isPrefixOf text && P (text.drop s.length) := ih
      have hseq : (literal (c :: s)).matchAt {} p k =
          (Tree.one (.code c.toNat)).matchAt {} p fun q => (literal s).matchAt {} q k :=
        matchAt_seqOf_cons _ _ _ _ _
      rw [hseq, isSome_matchAt_code htests]
      cases p.after with
      | nil => rfl
      | cons d rest => rw [List.isPrefixOf_cons_cons, Bool.and_assoc]; rfl

/-- One of several texts is matched when one of them comes next. -/
theorem isSome_matchAt_oneOf {k : Goal} (h : k.Tests fun _ => true) {texts : List (List Char)}
    (hne : texts ≠ []) (p : Place) :
    ((oneOf texts).matchAt {} p k).isSome = texts.any (·.isPrefixOf p.after) := by
  induction texts with
  | nil => exact absurd rfl hne
  | cons s rest ih =>
      cases rest with
      | nil =>
          rw [oneOf, isSome_matchAt_literal h, Bool.and_true, List.any_cons, List.any_nil,
            Bool.or_false]
      | cons s' rest =>
          show ((Tree.alt (literal s) (oneOf (s' :: rest))).matchAt {} p k).isSome = _
          rw [matchAt, Goal.isSome_orElse, isSome_matchAt_literal h, Bool.and_true,
            ih (List.cons_ne_nil _ _)]
          rfl

/-! ## The blanks in front -/

/-- A greedy run of blanks, before a goal that is not met in front of a blank, ends where the
blanks end. The induction is on the text ahead. -/
theorem isSome_greedy_blank {k : Goal} {P : List Char → Bool} (h : k.Tests P)
    (hblank : ∀ c rest, isBlank c = true → P (c :: rest) = false) (p : Place) :
    (Goal.greedy ((Tree.one (.items false [.category .blank false])).matchAt {}) none p k).isSome =
      P (p.after.dropWhile isBlank) := by
  induction hafter : p.after generalizing p with
  | nil =>
      rw [Goal.greedy, if_neg (by simp), Goal.isSome_orElse, matchAt, hafter, h p, hafter]
      rfl
  | cons c rest ih =>
      rw [Goal.greedy, if_neg (by simp), Goal.isSome_orElse, matchAt, hafter, h p, hafter]
      simp only [holds_blank]
      cases hc : isBlank c with
      | false => rw [List.dropWhile_cons_of_neg (by simp [hc])]; rfl
      | true =>
          have hlt : (p.step c rest).after.length < (c :: rest).length := Nat.lt_succ_self _
          rw [if_pos rfl, if_pos hlt, hblank c rest hc, Bool.or_false,
            List.dropWhile_cons_of_pos hc]
          exact ih (p.step c rest) rfl

end Tree

namespace Comment

theorem markers_any_blank (c : Char) (rest : List Char) (h : isBlank c = true) :
    markers.any (·.isPrefixOf (c :: rest)) = false := by
  have hne : ∀ d : Char, isBlank d = false → (d == c) = false := by
    intro d hd
    rw [beq_eq_false_iff_ne]
    rintro rfl
    rw [h] at hd
    cases hd
  simp [markers, List.isPrefixOf_cons_cons, hne '/' rfl, hne '*' rfl, hne '#' rfl, hne '<' rfl,
    hne '-' rfl]

theorem matchAt_defaultPattern_start (l : Line) :
    (defaultPattern.tree.matchAt {} (Place.start l) Goal.here).isSome =
      markers.any (·.isPrefixOf l.trimStart) := by
  have hmarkers : Goal.Tests
      (fun q => (Reading.seqOf [Tree.capture 1 (Tree.oneOf markers)]).matchAt {} q Goal.here)
      fun text => markers.any (·.isPrefixOf text) := fun q =>
    Tree.isSome_matchAt_oneOf (Goal.tests_here.capture q 1) (by decide) q
  exact Tree.isSome_greedy_blank hmarkers markers_any_blank (Place.start l)

/-- Behind the first place of a line, the anchor of the default pattern holds nowhere. -/
theorem matchFrom_defaultPattern_of_ne_nil {before : List Char} (h : before ≠ [])
    (text : List Char) : defaultPattern.tree.matchFrom {} before text = false := by
  have hat : ∀ (before after : List Char), before ≠ [] →
      (defaultPattern.tree.matchAt {} ⟨before, after, []⟩ Goal.here).isSome = false := by
    intro before after hne
    cases before with
    | nil => exact absurd rfl hne
    | cons c before => rfl
  induction text generalizing before with
  | nil => exact hat before [] h
  | cons c rest ih =>
      rw [Tree.matchFrom, hat before (c :: rest) h, ih (List.cons_ne_nil c before)]
      rfl

/-- The default pattern occurs in a line when the line, without the blanks it starts with, starts
with a marker. -/
theorem occursIn_defaultPattern (l : Line) :
    defaultPattern.occursIn l = markers.any (·.isPrefixOf l.trimStart) := by
  rw [← matchAt_defaultPattern_start]
  cases l with
  | nil => rfl
  | cons c rest =>
      have hlater := matchFrom_defaultPattern_of_ne_nil (List.cons_ne_nil c []) rest
      rw [Pattern.occursIn]
      show ((defaultPattern.tree.matchAt {} (Place.start (c :: rest)) Goal.here).isSome
        || defaultPattern.tree.matchFrom {} [c] rest) = _
      rw [hlater, Bool.or_false]

/-- The tree of the default pattern is what its source is read as. -/
theorem compile_defaultPattern :
    Pattern.compile defaultPattern.source = .ok defaultPattern := by
  have hread : (Pattern.compile defaultPattern.source).toOption =
      some defaultPattern := by decide +kernel
  cases hcompile : Pattern.compile defaultPattern.source with
  | error f =>
      rw [hcompile] at hread
      cases hread
  | ok p =>
      rw [hcompile] at hread
      exact congrArg Except.ok (Option.some.inj hread)

/-! ## Dropped lines -/

/-- No pattern, or the default one. -/
def IsStandard (comments : Option Pattern) : Prop :=
  comments = none ∨ comments = some defaultPattern

/-- Without a pattern of one's own, it depends on a line without the blanks it starts with whether
it is dropped. -/
theorem drops_congr {comments : Option Pattern} (h : IsStandard comments) {l l' : Line}
    (hl : markers.any (·.isPrefixOf l.trimStart) = markers.any (·.isPrefixOf l'.trimStart)) :
    drops comments l = drops comments l' := by
  rcases h with rfl | rfl
  · rfl
  · rw [drops, drops, Option.any_some, Option.any_some, occursIn_defaultPattern,
      occursIn_defaultPattern, hl]

end Comment

end Nesting
