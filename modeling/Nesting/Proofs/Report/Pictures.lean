import Mathlib.Data.List.SplitBy
import Nesting.Proofs.Report.Escaping

/-!
# Texts without pictures

A terminal puts pictures for the codes that it knows. What is rendered of a markup is shown without
pictures when no known code stands in it (`pictured_eq_render`): every run of parts that is searched
for codes is a piece of it. Escaping makes no code that was not there, since what it changes are
backslashes before brackets, and neither is in a code (`HoldsNoCode.render_escape`). A tag parts
what stands before it from what stands behind it (`picturedText_append_tag_cons`).
-/

namespace Nesting

/-- Texts in which no known code stands. -/
def HoldsNoCode (pictures : Pictures) (s : List Char) : Prop :=
  ∀ name, ':' :: name ++ [':'] <:+: s → pictures.find? (String.ofList name) = none

variable {pictures : Pictures} {s t : List Char}

theorem HoldsNoCode.of_infix (h : HoldsNoCode pictures t) (hs : s <:+: t) :
    HoldsNoCode pictures s :=
  fun name hname => h name (hname.trans hs)

/-- There is no code without colons. -/
theorem holdsNoCode_of_not_mem (h : ':' ∉ s) : HoldsNoCode pictures s :=
  fun _ hname => absurd (hname.subset List.mem_cons_self) h

/-- No code starts in a text without colons. -/
theorem HoldsNoCode.append (h : ':' ∉ s) (ht : HoldsNoCode pictures t) :
    HoldsNoCode pictures (s ++ t) := by
  induction s with
  | nil => exact ht
  | cons c s ih =>
      obtain ⟨hc, hs⟩ := not_or.mp (mt List.mem_cons.mpr h)
      intro name hname
      rcases List.infix_cons_iff.mp hname with hstart | hlater
      · exact absurd (List.cons_prefix_cons.mp hstart).1 hc
      · exact ih hs name hlater

namespace Markup

/-! ## Runs -/

/-- What a search for a code has read since the colon. -/
def pending (name? : Option (List Char)) : List Char :=
  name?.elim [] (':' :: ·)

theorem picture_eq_pending {name? : Option (List Char)}
    (h : HoldsNoCode pictures (pending name? ++ s)) :
    picture pictures name? s = pending name? ++ s := by
  induction s generalizing name? with
  | nil => cases name? <;> simp [picture, pending]
  | cons c s ih =>
      cases name? with
      | none =>
          by_cases hc : c = ':'
          · subst hc
            rw [picture, if_pos rfl]
            exact ih h
          · rw [picture, if_neg hc]
            exact congrArg (c :: ·) (ih (h.of_infix (List.suffix_cons c s).isInfix))
      | some name =>
          have hrest : HoldsNoCode pictures (pending none ++ s) := h.of_infix
            ((List.suffix_cons c s).trans (List.suffix_append _ _)).isInfix
          rw [picture]
          by_cases hc : c = ':'
          · subst hc
            have hunknown : pictures.find? (String.ofList name) = none := by
              refine h name (List.IsPrefix.isInfix ⟨s, ?_⟩)
              simp [pending]
            rw [if_pos rfl, hunknown, ih hrest]
            simp [pending]
          · rw [if_neg hc]
            by_cases hblank : isBlank c
            · rw [if_pos hblank, ih hrest]
              rfl
            · have hname : pending (some (name ++ [c])) ++ s = pending (some name) ++ c :: s := by
                simp [pending]
              rw [if_neg hblank, ih (hname ▸ h), hname]

theorem picture_eq (h : HoldsNoCode pictures s) : picture pictures none s = s :=
  picture_eq_pending h

/-! ## Parts -/

theorem picturedText_append {ps qs : List Part} (h : Parted ps qs) :
    picturedText pictures (ps ++ qs) = picturedText pictures ps ++ picturedText pictures qs := by
  rw [picturedText, List.splitBy_append h, List.flatMap_append]
  rfl

theorem picturedText_append_tag_cons (ps : List Part) (n : Nat) (t : List Char) (qs : List Part) :
    picturedText pictures (ps ++ .tag n t :: qs) =
      picturedText pictures (ps ++ [.tag n t]) ++ picturedText pictures qs := by
  rw [← picturedText_append (parted_of_tag ps n t qs), List.append_assoc]
  rfl

/-- What is searched for codes are the pieces of the text that stand between tags. -/
theorem picturedText_eq {ps : List Part} (h : HoldsNoCode pictures (textOf ps)) :
    picturedText pictures ps = textOf ps := by
  generalize hruns : (ps.splitBy fun p q => p.isPlain && q.isPlain) = runs
  rw [picturedText, hruns]
  induction runs generalizing ps with
  | nil =>
      rw [List.splitBy_eq_nil.mp hruns]
      rfl
  | cons run runs ih =>
      obtain ⟨rfl, hne, hruns, hedges⟩ := List.splitBy_eq_iff.mp hruns
      have hrest : (runs.flatten.splitBy fun p q => p.isPlain && q.isPlain) = runs :=
        List.splitBy_eq_iff.mpr ⟨rfl, fun hnil => hne (List.mem_cons_of_mem _ hnil),
          fun run hrun => hruns run (List.mem_cons_of_mem _ hrun), hedges.tail⟩
      have hparted : Parted run runs.flatten := by
        cases runs with
        | nil => exact fun _ _ _ hq => nomatch hq
        | cons run' runs =>
            obtain ⟨hrun, hrun', hedge⟩ := hedges.rel
            intro p hp q hq
            rw [List.getLast?_eq_some_getLast hrun] at hp
            rw [List.flatten_cons, List.head?_append_of_ne_nil _ hrun',
              List.head?_eq_some_head hrun'] at hq
            rw [← Option.some.inj hp, ← Option.some.inj hq]
            exact hedge
      have htext : textOf (run :: runs).flatten = textOf run ++ textOf runs.flatten :=
        textOf_append hparted
      rw [htext] at h ⊢
      rw [List.flatMap_cons, picture_eq (h.of_infix (List.prefix_append _ _).isInfix),
        ih (h.of_infix (List.suffix_append _ _).isInfix) hrest]

/-- A markup that renders to a text without codes is shown without pictures. -/
theorem pictured_eq_render (h : HoldsNoCode pictures (render s)) : pictured pictures s = render s :=
  picturedText_eq h

theorem pictured_of_not_mem_colon (h : ':' ∉ s) : pictured pictures s = render s :=
  pictured_eq_render (holdsNoCode_of_not_mem fun hc => h (mem_of_mem_render hc))

theorem pictured_write_append (ht : IsTag t) (rest : List Char) :
    pictured pictures ((Part.tag 0 t).write ++ rest) = pictured pictures rest := by
  rw [pictured, parts_write_append ht]
  exact picturedText_append_tag_cons [] 0 t (parts rest)

/-- Parts that are all plain are one run. -/
theorem picturedText_of_plain {ps : List Part} (h : ∀ p ∈ ps, p.isPlain = true) :
    picturedText pictures ps = picture pictures none (textOf ps) := by
  cases ps with
  | nil => rfl
  | cons p ps =>
      have hchain : (p :: ps).IsChain fun p q => (p.isPlain && q.isPlain) = true := by
        refine List.Pairwise.isChain ((List.pairwise_of_forall_mem_list fun p hp q hq => ?_))
        rw [h p hp, h q hq]
        rfl
      have hrun := List.splitBy_of_isChain (List.cons_ne_nil p ps) hchain
      rw [picturedText, hrun, List.flatMap_singleton]

/-- No code starts in a colon with a blank behind it. -/
theorem pictured_colon_blank_append (s : List Char) :
    pictured pictures ([':', ' '] ++ s) = [':', ' '] ++ pictured pictures s := by
  have hparts : parts ([':', ' '] ++ s) = .plain ':' :: .plain ' ' :: parts s := by
    rw [List.cons_append, parts_cons_of_ne (by decide) (by decide), List.cons_append,
      parts_cons_of_ne (by decide) (by decide)]
    rfl
  -- the run that starts there ends where the first run of the text does
  have hplain : ∀ p ∈ (parts s).takeWhile Part.isPlain, p.isPlain = true :=
    fun p hp => List.mem_takeWhile_imp hp
  have hparted (ps : List Part) : Parted ps ((parts s).dropWhile Part.isPlain) := by
    intro p _ q hq
    have hnot := List.head?_dropWhile_not Part.isPlain (parts s)
    rw [hq] at hnot
    rw [Bool.and_eq_false_imp]
    exact fun _ => hnot
  have hsplit := List.takeWhile_append_dropWhile (p := Part.isPlain) (l := parts s)
  rw [pictured, pictured, hparts, ← hsplit, picturedText_append (hparted _),
    picturedText_of_plain hplain, ← List.cons_append, ← List.cons_append,
    picturedText_append (hparted _), picturedText_of_plain (by simpa using ⟨rfl, rfl, hplain⟩)]
  rfl

/-! ## Escaped texts -/

section Escaped

variable {q : List Char} (hq : ∀ c ∈ q, c ≠ '[' ∧ c ≠ '\\') {tail : List Part}
  (htail : ∀ c ∈ (textOf tail).head?, c = '[' ∨ c = '\\')

include hq htail

/-- What an escaped text starts with stood there before, if it is without brackets and
backslashes. -/
theorem prefix_of_prefix_textOf_escape {ps : List Part}
    (h : q <+: textOf (ps.map Part.escape ++ tail)) : q <+: ps.flatMap Part.write := by
  induction ps generalizing q with
  | nil =>
      rw [List.map_nil, List.nil_append] at h
      cases q with
      | nil => exact List.nil_prefix
      | cons c q =>
          obtain ⟨rest, hrest⟩ := h
          obtain ⟨hopen, hslash⟩ := hq c List.mem_cons_self
          rcases htail c (by rw [← hrest]; rfl) with hc | hc
          · exact absurd hc hopen
          · exact absurd hc hslash
  | cons p ps ih =>
      cases q with
      | nil => exact List.nil_prefix
      | cons c q =>
          obtain ⟨⟨hopen, hslash⟩, hq⟩ := List.forall_mem_cons.mp hq
          rw [List.map_cons, List.cons_append] at h
          cases p with
          | tag n t =>
              rw [textOf_escape_tag_cons, Part.write] at h
              cases n with
              | zero => exact absurd (List.cons_prefix_cons.mp h).1 hopen
              | succ n => exact absurd (List.cons_prefix_cons.mp h).1 hslash
          | plain d =>
              by_cases hd : d = '\\'
              · subst hd
                by_cases hhead : (ps.map Part.escape ++ tail).head? = some (.plain '[')
                · obtain ⟨rest, hrest⟩ := List.head?_eq_some_iff.mp hhead
                  rw [Part.escape, hrest] at h
                  exact absurd (List.cons_prefix_cons.mp h).1 hopen
                · rw [Part.escape, textOf_slash_cons hhead] at h
                  exact absurd (List.cons_prefix_cons.mp h).1 hslash
              · rw [Part.escape, textOf_cons_of_ne hd] at h
                obtain ⟨rfl, hrest⟩ := List.cons_prefix_cons.mp h
                exact List.cons_prefix_cons.mpr ⟨rfl, ih hq hrest⟩

/-- What stands in an escaped text stood there before, if it is without brackets and backslashes
and not behind it. -/
theorem infix_of_infix_textOf_escape (hbehind : ¬q <:+: textOf tail) {ps : List Part}
    (h : q <:+: textOf (ps.map Part.escape ++ tail)) : q <:+: ps.flatMap Part.write := by
  induction ps with
  | nil => exact absurd h hbehind
  | cons p ps ih =>
      rw [List.flatMap_cons]
      have hlater (h : q <:+: textOf (ps.map Part.escape ++ tail)) :
          q <:+: p.write ++ ps.flatMap Part.write :=
        (ih h).trans (List.suffix_append _ _).isInfix
      rw [List.map_cons, List.cons_append] at h
      cases p with
      | tag n t =>
          rw [textOf_escape_tag_cons] at h
          rw [List.infix_append_iff]
          rcases List.infix_append_iff.mp h with h | h | ⟨q₁, q₂, rfl, hend, hstart⟩
          · exact Or.inl h
          · exact Or.inr (Or.inl (ih h))
          · have hq₂ : ∀ c ∈ q₂, c ≠ '[' ∧ c ≠ '\\' := fun c hc =>
              hq c (List.mem_append_right _ hc)
            exact Or.inr (Or.inr
              ⟨q₁, q₂, rfl, hend, prefix_of_prefix_textOf_escape hq₂ htail hstart⟩)
      | plain d =>
          by_cases hhead : d = '\\' ∧ (ps.map Part.escape ++ tail).head? = some (.plain '[')
          · -- the backslash is lost, so all that is left stands behind it
            obtain ⟨rfl, hhead⟩ := hhead
            obtain ⟨rest, hrest⟩ := List.head?_eq_some_iff.mp hhead
            refine hlater ?_
            rw [hrest] at h ⊢
            exact h
          · have htext : textOf (.plain d :: (ps.map Part.escape ++ tail)) =
                d :: textOf (ps.map Part.escape ++ tail) := by
              by_cases hd : d = '\\'
              · subst hd
                exact textOf_slash_cons fun heq => hhead ⟨rfl, heq⟩
              · exact textOf_cons_of_ne hd _
            rw [Part.escape, htext] at h
            rcases List.infix_cons_iff.mp h with h | h
            · have hstart : q <+: textOf ((Part.plain d :: ps).map Part.escape ++ tail) := by
                rw [List.map_cons, List.cons_append, Part.escape, htext]
                exact h
              exact (prefix_of_prefix_textOf_escape hq htail hstart).isInfix
            · exact hlater h

end Escaped

end Markup

open Markup

/-- Escaping makes no codes, whatever stands behind a text that is no code. -/
theorem HoldsNoCode.textOf_escape {ps tail : List Part}
    (h : HoldsNoCode pictures (ps.flatMap Part.write)) (hcolon : ':' ∉ Markup.textOf tail)
    (htail : ∀ c ∈ (Markup.textOf tail).head?, c = '[' ∨ c = '\\') :
    HoldsNoCode pictures (Markup.textOf (ps.map Part.escape ++ tail)) := by
  intro name hname
  by_contra hknown
  have hplain : ∀ c ∈ ':' :: name ++ [':'], c ≠ '[' ∧ c ≠ '\\' := by
    have hinside := pictures.plain _ hknown
    rw [String.toList_ofList] at hinside
    have hcolon : ':' ≠ '[' ∧ ':' ≠ '\\' := by decide
    simp only [List.cons_append, List.forall_mem_cons, List.forall_mem_append]
    exact ⟨hcolon, hinside, hcolon, List.forall_mem_nil _⟩
  exact hknown (h name (infix_of_infix_textOf_escape hplain htail
    (fun hbehind => hcolon (hbehind.subset List.mem_cons_self)) hname))

theorem HoldsNoCode.render_escape (h : HoldsNoCode pictures s) :
    HoldsNoCode pictures (render (escape s)) := by
  obtain ⟨y, hs, hlast, -⟩ := exists_eq_append_replicate s
  have hy : HoldsNoCode pictures ((parts y).flatMap Part.write) := by
    rw [write_parts]
    refine h.of_infix ?_
    conv => enter [2]; rw [hs]
    exact (List.prefix_append _ _).isInfix
  conv => enter [2, 1]; rw [hs]
  rw [render_escape_append_replicate hlast]
  refine hy.textOf_escape ?_ ?_
  · rw [textOf_replicate]
    exact fun hmem => absurd (List.eq_of_mem_replicate hmem) (by decide)
  · rw [textOf_replicate]
    exact fun c hc => Or.inr (List.eq_of_mem_replicate (List.mem_of_mem_head? hc))

/-- An escaped text before a tag is shown without pictures, if it is shown without them alone. -/
theorem pictured_escape_append_write_append {t : List Char} (ht : IsTag t) (hcolon : ':' ∉ t)
    (h : HoldsNoCode pictures s) (rest : List Char) :
    pictured pictures (escape s ++ ((Part.tag 0 t).write ++ rest)) =
      render (escape s ++ (Part.tag 0 t).write) ++ pictured pictures rest := by
  obtain ⟨y, hs, hlast, -⟩ := exists_eq_append_replicate s
  have hy : HoldsNoCode pictures ((parts y).flatMap Part.write) := by
    rw [write_parts]
    refine h.of_infix ?_
    conv => enter [2]; rw [hs]
    exact (List.prefix_append _ _).isInfix
  have hparts (rest : List Char) :=
    parts_escape_append_replicate_write hlast ht (slashesAtEnd s) rest
  rw [← hs] at hparts
  have hnothing := hparts []
  rw [List.append_nil, parts_nil] at hnothing
  rw [pictured, hparts, picturedText_append_tag_cons, render, hnothing, picturedText_eq]
  · rfl
  · refine hy.textOf_escape ?_ ?_
    all_goals
      rw [textOf_tag_cons, Markup.textOf, List.append_nil]
      generalize slashesWritten (slashesAtEnd s) / 2 = half
    · intro hmem
      rcases List.mem_append.mp hmem with hmem | hmem
      · exact absurd (List.eq_of_mem_replicate hmem) (by decide)
      · split at hmem
        · simp [hcolon] at hmem
        · cases hmem
    · intro c hc
      cases half with
      | succ half => exact Or.inr (Option.some.inj hc).symm
      | zero =>
          split at hc
          · exact Or.inl (Option.some.inj hc).symm
          · cases hc

end Nesting
