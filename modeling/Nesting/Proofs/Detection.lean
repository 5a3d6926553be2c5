import Mathlib.Data.List.Forall2
import Mathlib.Data.List.Induction
import Nesting.Proofs.Margin
import Nesting.Indent

/-!
# The detection of the step

What one line does to the count of the steps: an empty line nothing (`add_nil`), an unindented one
forgets the last lead (`add_of_lead_eq_none`), and an indented one is a repeat (`addLead_of_eq`) or
a use (`addLead_of_ne`), by how its lead compares with the one before. So all that the detection
looks at is which lines are empty, and the leads of the others (`ofLines_congr`).

The selection looks at the numbers of a count only: renaming the steps renames the one that is
selected (`mostUsed_map_rename`).
-/

namespace Nesting

/-! ## Counting a step -/

/-- What holds of each count, of a new one and of one that is added to holds behind a step. -/
theorem forall_countStep {P : StepCount → Prop} {uses repeats : Nat} {step : Run}
    {counts : List StepCount} (hnew : P ⟨step, 1, 0⟩)
    (hadd : ∀ e, P e → P { e with uses := e.uses + uses, repeats := e.repeats + repeats })
    (h : ∀ e ∈ counts, P e) : ∀ e ∈ countStep uses repeats step counts, P e := by
  induction counts with
  | nil =>
      intro e he
      obtain rfl := List.mem_singleton.mp he
      exact hnew
  | cons e rest ih =>
      obtain ⟨he, hrest⟩ := List.forall_mem_cons.mp h
      rw [countStep]
      split
      · exact List.forall_mem_cons.mpr ⟨hadd e he, hrest⟩
      · exact List.forall_mem_cons.mpr ⟨he, ih hrest⟩

theorem forall_step_countStep {P : Run → Prop} {uses repeats : Nat} {step : Run}
    {counts : List StepCount} (hstep : P step) (h : ∀ e ∈ counts, P e.step) :
    ∀ e ∈ countStep uses repeats step counts, P e.step :=
  forall_countStep (P := fun e => P e.step) hstep (fun _ he => he) h

theorem mem_steps_countStep_self (uses repeats : Nat) (step : Run) (counts : List StepCount) :
    step ∈ (countStep uses repeats step counts).map (·.step) := by
  induction counts with
  | nil => exact List.mem_singleton.mpr rfl
  | cons e rest ih =>
      rw [countStep]
      split
      · next heq => exact List.mem_cons.mpr (Or.inl heq.symm)
      · exact List.mem_cons_of_mem _ ih

theorem countStep_ne_nil (uses repeats : Nat) (step : Run) (counts : List StepCount) :
    countStep uses repeats step counts ≠ [] := by
  intro hnil
  have hmem := mem_steps_countStep_self uses repeats step counts
  rw [hnil] at hmem
  cases hmem

/-- A count with its step renamed. -/
def StepCount.rename (f : Run → Run) (e : StepCount) : StepCount :=
  { e with step := f e.step }

/-- A step is counted the same under another name, if no other step gets that name. -/
theorem countStep_map_rename {f : Run → Run} {uses repeats : Nat} {step : Run}
    {counts : List StepCount} (h : ∀ e ∈ counts, f e.step = f step → e.step = step) :
    countStep uses repeats (f step) (counts.map (·.rename f)) =
      (countStep uses repeats step counts).map (·.rename f) := by
  induction counts with
  | nil => rfl
  | cons e rest ih =>
      obtain ⟨he, hrest⟩ := List.forall_mem_cons.mp h
      rw [List.map_cons, countStep, countStep]
      by_cases hes : e.step = step
      · have hfes : (e.rename f).step = f step := congrArg f hes
        rw [if_pos hes, if_pos hfes]
        rfl
      · have hfes : (e.rename f).step ≠ f step := mt he hes
        rw [if_neg hes, if_neg hfes, ih hrest]
        rfl

namespace Tally

/-! ## Counting a line -/

/-- The length that a lead of some kind is compared with. -/
def before (t : Tally) (k : Margin) : Nat :=
  if t.kind = some k then t.length else 0

/-- The step from the last lead to another one. -/
def stepTo (t : Tally) (r : Run) : Run :=
  ⟨r.kind, (r.length - t.before r.kind) + (t.before r.kind - r.length)⟩

theorem addLead_of_eq {t : Tally} {r : Run} (h : r.length = t.before r.kind) :
    t.addLead r =
      ⟨r.length, some r.kind, t.step, t.step.elim t.counts (countStep 0 1 · t.counts)⟩ :=
  if_pos h

theorem addLead_of_ne {t : Tally} {r : Run} (h : r.length ≠ t.before r.kind) :
    t.addLead r =
      ⟨r.length, some r.kind, some (t.stepTo r), countStep 1 0 (t.stepTo r) t.counts⟩ :=
  if_neg h

@[simp] theorem add_nil (skipSingles : Bool) (t : Tally) : t.add skipSingles [] = t := rfl

theorem add_of_lead_eq_none {skipSingles : Bool} {t : Tally} {l : Line} (hne : l ≠ [])
    (h : l.lead = none) : t.add skipSingles l = { t with length := 0, kind := none } := by
  rw [add, if_neg hne, h]

theorem add_of_lead_eq_some {skipSingles : Bool} {t : Tally} {l : Line} {r : Run}
    (h : l.lead = some r) :
    t.add skipSingles l = if skipSingles && r == ⟨.space, 1⟩ then t else t.addLead r := by
  have hne : l ≠ [] := by
    rintro rfl
    cases h
  rw [add, if_neg hne, h]

/-- All that a line can do: it is passed over, or it is unindented, or it is indented. -/
theorem add_cases (skipSingles : Bool) (t : Tally) (l : Line) :
    (t.add skipSingles l = t ∧ (l = [] ∨ skipSingles = true ∧ l.lead = some ⟨.space, 1⟩))
      ∨ (l ≠ [] ∧ l.lead = none ∧ t.add skipSingles l = { t with length := 0, kind := none })
      ∨ ∃ r, l.lead = some r ∧ ¬(skipSingles = true ∧ r = ⟨.space, 1⟩)
          ∧ t.add skipSingles l = t.addLead r := by
  by_cases hne : l = []
  · rw [hne, add_nil]
    exact Or.inl ⟨rfl, Or.inl rfl⟩
  · cases hlead : l.lead with
    | none => exact Or.inr (Or.inl ⟨hne, rfl, add_of_lead_eq_none hne hlead⟩)
    | some r =>
        rw [add_of_lead_eq_some hlead]
        by_cases hskip : skipSingles = true ∧ r = ⟨.space, 1⟩
        · obtain ⟨rfl, rfl⟩ := hskip
          exact Or.inl ⟨rfl, Or.inr ⟨rfl, rfl⟩⟩
        · refine Or.inr (Or.inr ⟨r, rfl, hskip, if_neg ?_⟩)
          rw [Bool.and_eq_true, beq_iff_eq]
          exact hskip

/-- All that is counted of a line is whether it is empty, and its lead. -/
theorem add_congr {l l' : Line} (hnil : l = [] ↔ l' = []) (hlead : l.lead = l'.lead)
    (skipSingles : Bool) (t : Tally) : t.add skipSingles l = t.add skipSingles l' := by
  simp only [add, hnil, hlead]

theorem ofLines_congr {lines lines' : List Line}
    (h : List.Forall₂ (fun l l' : Line => (l = [] ↔ l' = []) ∧ l.lead = l'.lead) lines lines')
    (skipSingles : Bool) : ofLines skipSingles lines = ofLines skipSingles lines' := by
  have hfrom : ∀ t : Tally,
      lines.foldl (add skipSingles) t = lines'.foldl (add skipSingles) t := by
    induction h with
    | nil => exact fun t => rfl
    | cons hl _ ih =>
        intro t
        rw [List.foldl_cons, List.foldl_cons, add_congr hl.1 hl.2, ih]
  exact hfrom {}

/-- Lines at which nothing is counted can be left out. -/
theorem ofLines_filter {skipSingles : Bool} {p : Line → Prop} [DecidablePred p]
    (h : ∀ (t : Tally) (l : Line), ¬p l → t.add skipSingles l = t) (lines : List Line) :
    ofLines skipSingles (lines.filter p) = ofLines skipSingles lines := by
  have hadd : (fun (t : Tally) (l : Line) => if p l then t.add skipSingles l else t) =
      add skipSingles := by
    funext t l
    split
    · rfl
    · next hl => exact (h t l hl).symm
  rw [ofLines, List.foldl_filter]
  simp only [decide_eq_true_eq, hadd]
  rfl

theorem ofLines_concat (skipSingles : Bool) (lines : List Line) (l : Line) :
    ofLines skipSingles (lines ++ [l]) = (ofLines skipSingles lines).add skipSingles l := by
  rw [ofLines, List.foldl_concat]
  rfl

/-! ## What the count keeps

A line that repeats the last lead is counted for the step last used: there is one, it is of the kind
of the lead, and it has been counted. -/

/-- The state of a count over some lines. -/
structure Sound (t : Tally) : Prop where
  used : ∀ k, t.kind = some k → ∃ s, t.step = some s ∧ s.kind = k
  counted : ∀ s, t.step = some s → s ∈ t.counts.map (·.step)

theorem sound_empty : Sound {} where
  used := by
    intro k hk
    cases hk
  counted := by
    intro s hs
    cases hs

/-- A lead as long as the one before it finds a step in use: the one before it was of its kind. -/
theorem Sound.exists_step {t : Tally} (h : t.Sound) {r : Run} (hpos : 0 < r.length)
    (heq : r.length = t.before r.kind) : ∃ s, t.step = some s ∧ s.kind = r.kind := by
  have hkind : t.kind = some r.kind := by
    by_contra hne
    rw [before, if_neg hne] at heq
    omega
  exact h.used r.kind hkind

theorem Sound.addLead {t : Tally} (h : t.Sound) {r : Run} (hpos : 0 < r.length) :
    (t.addLead r).Sound := by
  by_cases heq : r.length = t.before r.kind
  · obtain ⟨s, hstep, hkind⟩ := h.exists_step hpos heq
    rw [addLead_of_eq heq, hstep]
    refine ⟨fun k hk => ⟨s, rfl, hkind.trans (Option.some.inj hk)⟩, fun s' hs' => ?_⟩
    obtain rfl := Option.some.inj hs'
    exact mem_steps_countStep_self 0 1 s t.counts
  · rw [addLead_of_ne heq]
    refine ⟨fun k hk => ⟨t.stepTo r, rfl, Option.some.inj hk⟩, fun s' hs' => ?_⟩
    obtain rfl := Option.some.inj hs'
    exact mem_steps_countStep_self 1 0 _ t.counts

/-- A lead adds one to one count, as a use or as a repeat. -/
theorem Sound.exists_counts_addLead {t : Tally} (h : t.Sound) {r : Run} (hpos : 0 < r.length) :
    ∃ uses repeats step, uses + repeats = 1
      ∧ (t.addLead r).counts = countStep uses repeats step t.counts := by
  by_cases heq : r.length = t.before r.kind
  · obtain ⟨s, hstep, -⟩ := h.exists_step hpos heq
    refine ⟨0, 1, s, rfl, ?_⟩
    rw [addLead_of_eq heq, hstep]
    rfl
  · refine ⟨1, 0, t.stepTo r, rfl, ?_⟩
    rw [addLead_of_ne heq]

theorem Sound.counts_addLead_ne_nil {t : Tally} (h : t.Sound) {r : Run} (hpos : 0 < r.length) :
    (t.addLead r).counts ≠ [] := by
  obtain ⟨uses, repeats, step, -, heq⟩ := h.exists_counts_addLead hpos
  rw [heq]
  exact countStep_ne_nil uses repeats step t.counts

theorem Sound.add {t : Tally} (h : t.Sound) (skipSingles : Bool) (l : Line) :
    (t.add skipSingles l).Sound := by
  obtain ⟨heq, -⟩ | ⟨-, -, heq⟩ | ⟨r, hlead, -, heq⟩ := add_cases skipSingles t l
  · rw [heq]
    exact h
  · rw [heq]
    exact ⟨fun k hk => (nomatch hk), h.counted⟩
  · rw [heq]
    exact h.addLead (Line.length_pos_of_lead hlead)

theorem sound_ofLines (skipSingles : Bool) (lines : List Line) :
    (ofLines skipSingles lines).Sound := by
  induction lines using List.reverseRecOn with
  | nil => exact sound_empty
  | append_singleton lines l ih =>
      rw [ofLines_concat]
      exact ih.add skipSingles l

/-- No step is counted when all lines are unindented or passed over. -/
theorem counts_ofLines_eq_nil_iff (skipSingles : Bool) (lines : List Line) :
    (ofLines skipSingles lines).counts = [] ↔
      ∀ l ∈ lines, ∀ r, l.lead = some r → skipSingles = true ∧ r = ⟨.space, 1⟩ := by
  induction lines using List.reverseRecOn with
  | nil =>
      constructor
      · intro _ l hl
        cases hl
      · exact fun _ => rfl
  | append_singleton lines l ih =>
      rw [ofLines_concat, List.forall_mem_append, ← ih, List.forall_mem_singleton]
      have hsound := sound_ofLines skipSingles lines
      obtain ⟨heq, hskip⟩ | ⟨-, hlead, heq⟩ | ⟨r, hlead, hnot, heq⟩ :=
        add_cases skipSingles (ofLines skipSingles lines) l
      · rw [heq]
        refine ⟨fun hnil => ⟨hnil, fun r hr => ?_⟩, fun h => h.1⟩
        rcases hskip with rfl | ⟨hskip, hsingle⟩
        · cases hr
        · exact ⟨hskip, Option.some.inj (hr.symm.trans hsingle)⟩
      · rw [heq]
        refine ⟨fun hnil => ⟨hnil, fun r hr => ?_⟩, fun h => h.1⟩
        cases hlead.symm.trans hr
      · rw [heq]
        refine ⟨fun hnil => ?_, fun h => absurd (h.2 r hlead) hnot⟩
        exact absurd hnil (hsound.counts_addLead_ne_nil (Line.length_pos_of_lead hlead))

/-! ## Selecting a step -/

/-- One round of the selection. -/
def better (best : Option StepCount) (e : StepCount) : Option StepCount :=
  match best with
  | none => some e
  | some b => if e.beats b then some e else some b

theorem better_rename (f : Run → Run) (best : Option StepCount) (e : StepCount) :
    better (best.map (·.rename f)) (e.rename f) = (better best e).map (·.rename f) := by
  cases best with
  | none => rfl
  | some b =>
      have hbeats : (e.rename f).beats (b.rename f) = e.beats b := rfl
      rw [Option.map_some, better, hbeats, better]
      split <;> rfl

theorem foldl_better_map_rename (f : Run → Run) (counts : List StepCount)
    (best : Option StepCount) :
    (counts.map (·.rename f)).foldl better (best.map (·.rename f)) =
      (counts.foldl better best).map (·.rename f) := by
  induction counts generalizing best with
  | nil => rfl
  | cons e rest ih =>
      rw [List.map_cons, List.foldl_cons, List.foldl_cons, better_rename, ih]

theorem mostUsed_map_rename (f : Run → Run) (counts : List StepCount) :
    mostUsed (counts.map (·.rename f)) = (mostUsed counts).map (·.rename f) :=
  foldl_better_map_rename f counts none

/-- What is selected is one of the counts. -/
theorem mem_of_foldl_better {counts : List StepCount} {best : Option StepCount} {e : StepCount}
    (h : counts.foldl better best = some e) : best = some e ∨ e ∈ counts := by
  induction counts generalizing best with
  | nil => exact Or.inl h
  | cons e' rest ih =>
      rcases ih h with hbest | hmem
      · cases best with
        | none => exact Or.inr (List.mem_cons.mpr (Or.inl (Option.some.inj hbest).symm))
        | some b =>
            rw [better] at hbest
            split at hbest
            · exact Or.inr (List.mem_cons.mpr (Or.inl (Option.some.inj hbest).symm))
            · exact Or.inl hbest
      · exact Or.inr (List.mem_cons_of_mem _ hmem)

theorem foldl_better_ne_none {counts : List StepCount} {b : StepCount} :
    counts.foldl better (some b) ≠ none := by
  induction counts generalizing b with
  | nil => exact Option.some_ne_none b
  | cons e rest ih =>
      rw [List.foldl_cons, better]
      split
      · exact ih
      · exact ih

theorem mostUsed_eq_none_iff {counts : List StepCount} : mostUsed counts = none ↔ counts = [] := by
  cases counts with
  | nil => exact ⟨fun _ => rfl, fun _ => rfl⟩
  | cons e rest =>
      constructor
      · exact fun h => absurd h foldl_better_ne_none
      · exact fun h => absurd h (List.cons_ne_nil e rest)

theorem mem_of_mostUsed {counts : List StepCount} {e : StepCount}
    (h : mostUsed counts = some e) : e ∈ counts :=
  (mem_of_foldl_better h).resolve_left (fun hnone => nomatch hnone)

end Tally

namespace Indent

/-- Texts with the same counts have the same indentation. -/
theorem detect_congr {lines lines' : List Line}
    (h : ∀ skipSingles, (Tally.ofLines skipSingles lines).counts =
      (Tally.ofLines skipSingles lines').counts) : detect lines = detect lines' := by
  rw [detect, detect, deciding, deciding, h true, h false]

theorem deciding_eq (lines : List Line) :
    deciding lines =
      if (Tally.ofLines true lines).counts = [] then (Tally.ofLines false lines).counts
      else (Tally.ofLines true lines).counts := by
  rw [deciding]
  cases (Tally.ofLines true lines).counts <;> rfl

/-- No step is detected just when no line is indented. -/
theorem detect_eq_none_iff (lines : List Line) :
    detect lines = none ↔ ∀ l ∈ lines, l.lead = .none := by
  have hcounts : detect lines = none ↔ deciding lines = [] := by
    rw [← Tally.mostUsed_eq_none_iff, detect]
    cases Tally.mostUsed (deciding lines) with
    | none => exact ⟨fun _ => rfl, fun _ => rfl⟩
    | some e =>
        constructor
        · exact fun h => nomatch congrArg Indent.kind h
        · exact fun h => nomatch h
  have hleads : (∀ l ∈ lines, ∀ r, l.lead = some r → false = true ∧ r = ⟨.space, 1⟩) ↔
      ∀ l ∈ lines, l.lead = .none := by
    simp [Option.eq_none_iff_forall_ne_some]
  rw [hcounts, ← hleads, ← Tally.counts_ofLines_eq_nil_iff, deciding_eq]
  split
  · exact Iff.rfl
  · next hne =>
      -- a count that passes over single spaces counts no more than one that does not
      refine ⟨fun h => absurd h hne, fun h => absurd ?_ hne⟩
      rw [Tally.counts_ofLines_eq_nil_iff] at h ⊢
      exact fun l hl r hr => absurd (h l hl r hr).1 Bool.false_ne_true

theorem unit_ofRun_space {n : Nat} (h : 0 < n) : (ofRun ⟨.space, n⟩).unit = n := by
  have hkind : (ofRun ⟨.space, n⟩).kind ≠ some .tab := by
    intro heq
    cases heq
  have hamount : (ofRun ⟨.space, n⟩).amount ≠ 0 := by
    show (n : Int) ≠ 0
    omega
  rw [unit, if_neg hkind, if_neg hamount]
  rfl

theorem amount_nonneg (lines : List Line) : 0 ≤ (detect lines).amount := by
  rw [detect]
  cases Tally.mostUsed (deciding lines) with
  | none => exact Int.le_refl 0
  | some e => exact Int.natCast_nonneg e.step.length

/-- Columns are at least one to a level. -/
theorem unit_pos (lines : List Line) : 0 < (detect lines).unit := by
  have hnonneg := amount_nonneg lines
  rw [unit]
  split
  · exact Int.one_pos
  · split <;> omega

end Indent

end Nesting
