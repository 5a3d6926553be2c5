import Nesting.Proofs.CommentMarkers
import Nesting.Proofs.Counting
import Nesting.Proofs.Detection

/-!
# Tabs or spaces

A text is a list of levels with a body each (`NestedLine`); what a level is written with is a matter
of style: one tab, or some number of spaces, two or more. Here the styles are compared. The count of
the steps over the spaced text follows the count over the tabbed text, each length multiplied by the
width (`add_spaced`, `ofLines_spaced`): no lead of the spaced text is a single space, and the one of
the tabbed text that is a single tab is no exception for either. So the selected steps correspond
(`detect_spaced`), and with them the depths (`listing_of_style`).
-/

namespace Nesting

/-- A line at a level: what it holds behind its margin, whatever the margin is made of. -/
structure NestedLine where
  level : Nat
  body : Line
  newline_not_mem : '\n' ∉ body
  isFlush : body.IsFlush

namespace NestedLine

/-- The line with a tab for each level. -/
def tabbed (r : NestedLine) : Line :=
  List.replicate r.level '\t' ++ r.body

/-- The line with so many spaces for each level. -/
def spaced (width : Nat) (r : NestedLine) : Line :=
  List.replicate (width * r.level) ' ' ++ r.body

theorem lead_tabbed_of_zero {r : NestedLine} (h : r.level = 0) : r.tabbed.lead = none := by
  rw [tabbed, h]
  exact Line.lead_of_isFlush r.isFlush

theorem lead_tabbed_of_succ {r : NestedLine} {n : Nat} (h : r.level = n + 1) :
    r.tabbed.lead = some ⟨.tab, n + 1⟩ := by
  rw [tabbed, h, Line.lead_append r.isFlush]
  exact Line.lead_replicate_succ .tab n

theorem lead_spaced_of_succ {r : NestedLine} {width n : Nat} (h : width * r.level = n + 1) :
    (r.spaced width).lead = some ⟨.space, n + 1⟩ := by
  rw [spaced, h, Line.lead_append r.isFlush]
  exact Line.lead_replicate_succ .space n

theorem spaced_eq_tabbed_of_zero {r : NestedLine} (h : r.level = 0) (width : Nat) :
    r.spaced width = r.tabbed := by
  rw [spaced, tabbed, h]
  rfl

end NestedLine

/-! ## Widening -/

/-- A run of tabs as one of spaces. -/
def Run.widen (width : Nat) (r : Run) : Run :=
  ⟨.space, width * r.length⟩

/-- A run of one tab or more. -/
def Run.IsTabs (r : Run) : Prop :=
  r.kind = .tab ∧ 0 < r.length

theorem Run.widen_inj {width : Nat} (hwidth : 0 < width) {r r' : Run} (h : r.IsTabs)
    (h' : r'.IsTabs) (heq : r.widen width = r'.widen width) : r = r' := by
  have hlength : r.length = r'.length :=
    Nat.eq_of_mul_eq_mul_left hwidth (congrArg Run.length heq)
  cases r
  cases r'
  obtain rfl : _ = Margin.tab := h.1
  obtain rfl : _ = Margin.tab := h'.1
  rw [Run.mk.injEq]
  exact ⟨rfl, hlength⟩

namespace Tally

/-- The state of the count over the spaced text, for a state over the tabbed one. -/
def widen (width : Nat) (t : Tally) : Tally where
  length := width * t.length
  kind := t.kind.map fun _ => .space
  step := t.step.map (Run.widen width)
  counts := t.counts.map (·.rename (Run.widen width))

/-- What the count over a tabbed text keeps: it knows of tabs only. -/
structure AllTabs (t : Tally) : Prop where
  kind : ∀ k ∈ t.kind, k = .tab
  step : ∀ s ∈ t.step, s.IsTabs
  counts : ∀ e ∈ t.counts, e.step.IsTabs

theorem allTabs_empty : AllTabs {} where
  kind := by
    intro k hk
    cases hk
  step := by
    intro s hs
    cases hs
  counts := by
    intro e he
    cases he

theorem AllTabs.before_widen {t : Tally} (h : t.AllTabs) (width : Nat) :
    (t.widen width).before .space = width * t.before .tab := by
  cases hkind : t.kind with
  | none => simp [before, widen, hkind]
  | some k =>
      obtain rfl := h.kind k hkind
      simp [before, widen, hkind]

theorem AllTabs.stepTo_widen {t : Tally} (h : t.AllTabs) (width n : Nat) :
    (t.widen width).stepTo ⟨.space, width * n⟩ = (t.stepTo ⟨.tab, n⟩).widen width := by
  rw [stepTo, h.before_widen, stepTo, Run.widen, ← Nat.mul_sub, ← Nat.mul_sub, ← Nat.mul_add]

theorem AllTabs.isTabs_stepTo {t : Tally} {n : Nat} (hne : n ≠ t.before .tab) :
    (t.stepTo ⟨.tab, n⟩).IsTabs := by
  refine ⟨rfl, ?_⟩
  show 0 < (n - t.before .tab) + (t.before .tab - n)
  omega

theorem AllTabs.countStep_widen {t : Tally} (h : t.AllTabs) {width : Nat} (hwidth : 0 < width)
    {s : Run} (hs : s.IsTabs) (uses repeats : Nat) :
    countStep uses repeats (s.widen width) (t.widen width).counts =
      (countStep uses repeats s t.counts).map (·.rename (Run.widen width)) :=
  countStep_map_rename fun e he => Run.widen_inj hwidth (h.counts e he) hs

/-! ## One line in both styles -/

theorem AllTabs.addLead {t : Tally} (h : t.AllTabs) (n : Nat) : (t.addLead ⟨.tab, n⟩).AllTabs := by
  by_cases heq : n = t.before .tab
  · rw [addLead_of_eq heq]
    refine ⟨fun k hk => (Option.some.inj hk).symm, h.step, ?_⟩
    cases hstep : t.step with
    | none => exact h.counts
    | some s => exact forall_step_countStep (h.step s hstep) h.counts
  · rw [addLead_of_ne heq]
    have hs := AllTabs.isTabs_stepTo heq
    refine ⟨fun k hk => (Option.some.inj hk).symm, fun s hs' => ?_,
      forall_step_countStep hs h.counts⟩
    obtain rfl := Option.some.inj hs'
    exact hs

/-- A wider lead does to the wider state what the lead did to the state. -/
theorem AllTabs.addLead_widen {t : Tally} (h : t.AllTabs) {width : Nat} (hwidth : 0 < width)
    (n : Nat) :
    (t.widen width).addLead ⟨.space, width * n⟩ = (t.addLead ⟨.tab, n⟩).widen width := by
  by_cases heq : n = t.before .tab
  · have hwide : width * n = (t.widen width).before .space := by
      rw [h.before_widen, heq]
    rw [addLead_of_eq hwide, addLead_of_eq heq]
    cases hstep : t.step with
    | none => simp [widen, hstep]
    | some s =>
        have hcounts := h.countStep_widen hwidth (h.step s hstep) 0 1
        have hwiden : (t.widen width).step = some (s.widen width) := by
          rw [widen, hstep, Option.map_some]
        rw [hwiden]
        simp only [Option.elim_some, hcounts]
        rfl
  · have hwide : width * n ≠ (t.widen width).before .space := by
      rw [h.before_widen]
      exact fun hmul => heq (Nat.eq_of_mul_eq_mul_left hwidth hmul)
    rw [addLead_of_ne hwide, addLead_of_ne heq, h.stepTo_widen,
      h.countStep_widen hwidth (AllTabs.isTabs_stepTo heq)]
    rfl

theorem AllTabs.add_tabbed {t : Tally} (h : t.AllTabs) (skipSingles : Bool) (r : NestedLine) :
    (t.add skipSingles r.tabbed).AllTabs := by
  cases hlevel : r.level with
  | zero =>
      by_cases hnil : r.tabbed = []
      · rw [hnil]
        exact h
      · rw [add_of_lead_eq_none hnil (NestedLine.lead_tabbed_of_zero hlevel)]
        exact ⟨fun k hk => (nomatch hk), h.step, h.counts⟩
  | succ n =>
      rw [add_of_lead_eq_some (NestedLine.lead_tabbed_of_succ hlevel)]
      split
      · exact h
      · exact h.addLead (n + 1)

/-- One line of the spaced text follows the line of the tabbed text. -/
theorem AllTabs.add_spaced {t : Tally} (h : t.AllTabs) {width : Nat} (hwidth : 2 ≤ width)
    (skipSingles : Bool) (r : NestedLine) :
    (t.widen width).add skipSingles (r.spaced width) =
      (t.add skipSingles r.tabbed).widen width := by
  cases hlevel : r.level with
  | zero =>
      rw [NestedLine.spaced_eq_tabbed_of_zero hlevel]
      by_cases hnil : r.tabbed = []
      · rw [hnil]
        rfl
      · have hlead := NestedLine.lead_tabbed_of_zero hlevel
        rw [add_of_lead_eq_none hnil hlead, add_of_lead_eq_none hnil hlead]
        rfl
  | succ n =>
      -- two spaces or more are never passed over, and a tab is not either
      have hmul : width * r.level = (width * (n + 1) - 1) + 1 := by
        have hpos : 0 < width * (n + 1) := Nat.mul_pos (by omega) n.succ_pos
        rw [hlevel]
        omega
      have htwo : 2 ≤ width * (n + 1) :=
        Nat.le_trans hwidth (Nat.le_mul_of_pos_right width n.succ_pos)
      rw [add_of_lead_eq_some (NestedLine.lead_tabbed_of_succ hlevel),
        add_of_lead_eq_some (NestedLine.lead_spaced_of_succ hmul), ← hmul, hlevel]
      have htab : ((⟨.tab, n + 1⟩ : Run) == ⟨.space, 1⟩) = false := rfl
      have hspace : ((⟨.space, width * (n + 1)⟩ : Run) == ⟨.space, 1⟩) = false := by
        rw [beq_eq_false_iff_ne]
        intro heq
        have hone := congrArg Run.length heq
        simp only at hone
        omega
      rw [htab, hspace, Bool.and_false]
      exact h.addLead_widen (by omega) (n + 1)

/-! ## A whole text in both styles -/

theorem AllTabs.foldl_spaced {t : Tally} (h : t.AllTabs) {width : Nat} (hwidth : 2 ≤ width)
    (skipSingles : Bool) (rows : List NestedLine) :
    ((rows.map NestedLine.tabbed).foldl (add skipSingles) t).AllTabs
      ∧ (rows.map (NestedLine.spaced width)).foldl (add skipSingles) (t.widen width) =
          ((rows.map NestedLine.tabbed).foldl (add skipSingles) t).widen width := by
  induction rows generalizing t with
  | nil => exact ⟨h, rfl⟩
  | cons r rest ih =>
      rw [List.map_cons, List.map_cons, List.foldl_cons, List.foldl_cons,
        h.add_spaced hwidth skipSingles]
      exact ih (h.add_tabbed skipSingles r)

theorem allTabs_ofLines (skipSingles : Bool) (rows : List NestedLine) :
    (ofLines skipSingles (rows.map NestedLine.tabbed)).AllTabs :=
  (allTabs_empty.foldl_spaced (Nat.le_refl 2) skipSingles rows).1

theorem ofLines_spaced {width : Nat} (hwidth : 2 ≤ width) (skipSingles : Bool)
    (rows : List NestedLine) :
    ofLines skipSingles (rows.map (NestedLine.spaced width)) =
      (ofLines skipSingles (rows.map NestedLine.tabbed)).widen width :=
  (allTabs_empty.foldl_spaced hwidth skipSingles rows).2

end Tally

namespace Indent

theorem deciding_spaced {width : Nat} (hwidth : 2 ≤ width) (rows : List NestedLine) :
    deciding (rows.map (NestedLine.spaced width)) =
      (deciding (rows.map NestedLine.tabbed)).map (·.rename (Run.widen width)) := by
  rw [deciding_eq, deciding_eq, Tally.ofLines_spaced hwidth, Tally.ofLines_spaced hwidth]
  simp only [Tally.widen, List.map_eq_nil_iff]
  split <;> rfl

theorem isTabs_of_mem_deciding {rows : List NestedLine} {e : StepCount}
    (he : e ∈ deciding (rows.map NestedLine.tabbed)) : e.step.IsTabs := by
  rw [deciding_eq] at he
  split at he
  · exact (Tally.allTabs_ofLines false rows).counts e he
  · exact (Tally.allTabs_ofLines true rows).counts e he

/-- Either neither style has a step, or each has the same number of its levels for one. -/
theorem detect_spaced (rows : List NestedLine) :
    (detect (rows.map NestedLine.tabbed) = none
        ∧ ∀ width, 2 ≤ width → detect (rows.map (NestedLine.spaced width)) = none)
      ∨ ∃ m, 1 ≤ m ∧ detect (rows.map NestedLine.tabbed) = ofRun ⟨.tab, m⟩
          ∧ ∀ width, 2 ≤ width →
              detect (rows.map (NestedLine.spaced width)) = ofRun ⟨.space, width * m⟩ := by
  cases hused : Tally.mostUsed (deciding (rows.map NestedLine.tabbed)) with
  | none =>
      refine Or.inl ⟨by rw [detect, hused], fun width hwidth => ?_⟩
      rw [detect, deciding_spaced hwidth, Tally.mostUsed_map_rename, hused, Option.map_none]
  | some e =>
      obtain ⟨hkind, hpos⟩ := isTabs_of_mem_deciding (Tally.mem_of_mostUsed hused)
      refine Or.inr ⟨e.step.length, hpos, ?_, fun width hwidth => ?_⟩
      · rw [detect, hused, ← hkind]
      · rw [detect, deciding_spaced hwidth, Tally.mostUsed_map_rename, hused, Option.map_some]
        rfl

end Indent

/-! ## Listings -/

namespace NestedLine

theorem isBlank_of_mem_replicate {k : Margin} {n : Nat} :
    ∀ c ∈ List.replicate n k.char, isBlank c = true := by
  intro c hc
  obtain rfl := List.eq_of_mem_replicate hc
  exact isBlank_of_isMargin (Line.isMargin_char k)

theorem newline_not_mem_replicate_append (k : Margin) (n : Nat) (r : NestedLine) :
    '\n' ∉ List.replicate n k.char ++ r.body := by
  intro hm
  rcases List.mem_append.mp hm with hm | hm
  · have hchar := List.eq_of_mem_replicate hm
    cases k <;> exact absurd hchar (by decide)
  · exact r.newline_not_mem hm

/-- A line counted at a depth that depends on its level only. -/
def counted? (depth : Nat → Int) (drops : Line → Bool) (r : NestedLine) (number : Nat) :
    Option CountedLine :=
  if r.body.trim = [] ∨ drops r.body then none
  else some ⟨number, depth r.level, String.ofList r.body.trim⟩

/-- The listing of nested lines, each at a depth that depends on its level only. -/
def countAll (depth : Nat → Int) (drops : Line → Bool) (rows : List NestedLine) :
    List CountedLine :=
  (rows.zipIdx 1).filterMap fun p => p.1.counted? depth drops p.2

theorem ofLine?_replicate_append {comments : Option Pattern} (h : Comment.IsStandard comments)
    {unit : Int} (k : Margin) (n : Nat) (r : NestedLine) (number : Nat) :
    CountedLine.ofLine? unit (Comment.drops comments) (List.replicate n k.char ++ r.body) number =
      r.counted? (fun _ => Line.depth unit (List.replicate n k.char)) (Comment.drops comments)
        number := by
  have hstart : Line.trimStart (List.replicate n k.char ++ r.body) = r.body.trimStart :=
    Line.trimStart_append isBlank_of_mem_replicate r.body
  have hdrops : Comment.drops comments (List.replicate n k.char ++ r.body) =
      Comment.drops comments r.body := Comment.drops_congr h (by rw [hstart])
  rw [CountedLine.ofLine?, Line.trim_append isBlank_of_mem_replicate, hdrops,
    Line.depth_append r.isFlush]
  rfl

theorem countLines_map {write : NestedLine → Line} {unit : Int} {depth : Nat → Int}
    {drops : Line → Bool} {rows : List NestedLine}
    (h : ∀ r ∈ rows, ∀ n,
      CountedLine.ofLine? unit drops (write r) n = r.counted? depth drops n) :
    countLines unit drops (rows.map write) = countAll depth drops rows := by
  rw [countLines, countAll, List.zipIdx_map, List.filterMap_map]
  exact List.filterMap_congr fun p hp => h p.1 (List.fst_mem_of_mem_zipIdx hp) p.2

theorem depth_replicate_tab (n : Nat) : Line.depth 1 (List.replicate n '\t') = n := by
  have hmargin : Line.margin (List.replicate n '\t') = List.replicate n '\t' :=
    Line.margin_replicate .tab n
  rw [Line.depth_eq Int.one_ne_zero, Line.marginTabs, Line.marginSpaces, hmargin,
    List.count_replicate_self, List.count_replicate, if_neg (by decide)]
  simp

theorem depth_replicate_space {width m : Nat} (hwidth : 0 < width) (hm : 0 < m) (n : Nat) :
    Line.depth ((width * m : Nat) : Int) (List.replicate (width * n) ' ') =
      ((n / m : Nat) : Int) := by
  have hmargin : Line.margin (List.replicate (width * n) ' ') = List.replicate (width * n) ' ' :=
    Line.margin_replicate .space (width * n)
  have hunit : ((width * m : Nat) : Int) ≠ 0 := by
    have hpos : 0 < width * m := Nat.mul_pos hwidth hm
    omega
  rw [Line.depth_eq hunit, Line.marginTabs, Line.marginSpaces, hmargin,
    List.count_replicate_self, List.count_replicate, if_neg (by decide),
    Int.fdiv_eq_ediv_of_nonneg _ (Int.natCast_nonneg _), ← Int.natCast_ediv,
    Nat.mul_div_mul_left n m hwidth]
  simp

theorem countLines_tabbed {comments : Option Pattern} (h : Comment.IsStandard comments)
    (rows : List NestedLine) :
    countLines 1 (Comment.drops comments) (rows.map tabbed) =
      countAll (fun level => level) (Comment.drops comments) rows := by
  refine countLines_map fun r _ n => ?_
  refine (ofLine?_replicate_append h .tab r.level r n).trans ?_
  simp only [counted?, Margin.char, depth_replicate_tab]

theorem countLines_spaced {comments : Option Pattern} (h : Comment.IsStandard comments)
    {width m : Nat} (hwidth : 0 < width) (hm : 0 < m) (rows : List NestedLine) :
    countLines ((width * m : Nat) : Int) (Comment.drops comments) (rows.map (spaced width)) =
      countAll (fun level => ((level / m : Nat) : Int)) (Comment.drops comments) rows := by
  refine countLines_map fun r _ n => ?_
  refine (ofLine?_replicate_append h .space (width * r.level) r n).trans ?_
  simp only [counted?, Margin.char, depth_replicate_space hwidth hm]

/-- Without a step, no line has a level, and both styles are the bodies alone. -/
theorem map_spaced_eq_map_tabbed {rows : List NestedLine}
    (h : Indent.detect (rows.map tabbed) = .none) (width : Nat) :
    rows.map (spaced width) = rows.map tabbed := by
  refine List.map_congr_left fun r hr => spaced_eq_tabbed_of_zero ?_ width
  have hlead := (Indent.detect_eq_none_iff _).mp h r.tabbed (List.mem_map_of_mem hr)
  cases hlevel : r.level with
  | zero => rfl
  | succ n =>
      rw [lead_tabbed_of_succ hlevel] at hlead
      cases hlead

theorem newline_not_mem_tabbed (rows : List NestedLine) : ∀ l ∈ rows.map tabbed, '\n' ∉ l := by
  intro l hl
  obtain ⟨r, -, rfl⟩ := List.mem_map.mp hl
  exact newline_not_mem_replicate_append .tab r.level r

theorem newline_not_mem_spaced (width : Nat) (rows : List NestedLine) :
    ∀ l ∈ rows.map (spaced width), '\n' ∉ l := by
  intro l hl
  obtain ⟨r, -, rfl⟩ := List.mem_map.mp hl
  exact newline_not_mem_replicate_append .space (width * r.level) r

theorem lines_ofText_tabbed {comments : Option Pattern} (h : Comment.IsStandard comments)
    (rows : List NestedLine) :
    (Listing.ofText (Comment.drops comments) (textOf (rows.map tabbed))).lines =
      countAll (fun level => level) (Comment.drops comments) rows := by
  have hunit : (Indent.detect (rows.map tabbed)).unit = 1 := by
    rcases Indent.detect_spaced rows with ⟨hnone, -⟩ | ⟨m, -, hm, -⟩
    · rw [hnone]
      rfl
    · rw [hm]
      rfl
  rw [Listing.ofText_textOf _ (newline_not_mem_tabbed rows), Listing.ofLines, hunit]
  exact countLines_tabbed h rows

theorem lines_ofText_spaced {comments : Option Pattern} (h : Comment.IsStandard comments)
    {rows : List NestedLine} {width m : Nat} (hwidth : 0 < width) (hm : 0 < m)
    (hdetect : Indent.detect (rows.map (spaced width)) = Indent.ofRun ⟨.space, width * m⟩) :
    (Listing.ofText (Comment.drops comments) (textOf (rows.map (spaced width)))).lines =
      countAll (fun level => (level / m : Nat)) (Comment.drops comments) rows := by
  rw [Listing.ofText_textOf _ (newline_not_mem_spaced width rows), Listing.ofLines, hdetect,
    Indent.unit_ofRun_space (Nat.mul_pos hwidth hm)]
  exact countLines_spaced h hwidth hm rows

end NestedLine

/-- A text with a tab for each level, and the same text with two spaces or more. The one has a step
just when the other has, and then it is the same number of levels in every style. The tabbed text
counts each line at its level; the spaced ones count the same lines, each as deep as the step goes
into its level, whatever the width. -/
theorem listing_of_style {comments : Option Pattern} (h : Comment.IsStandard comments)
    (rows : List NestedLine) :
    let drops := Comment.drops comments
    let tabs := textOf (rows.map NestedLine.tabbed)
    let spaces := fun width => textOf (rows.map (NestedLine.spaced width))
    (∀ width, 2 ≤ width →
        (Indent.detect (linesOf tabs) = .none ↔ Indent.detect (linesOf (spaces width)) = .none))
      ∧ (Listing.ofText drops tabs).lines =
          NestedLine.countAll (fun level => level) drops rows
      ∧ (Indent.detect (linesOf tabs) = .none → ∀ width, 2 ≤ width →
          (Listing.ofText drops (spaces width)).lines = (Listing.ofText drops tabs).lines)
      ∧ (Indent.detect (linesOf tabs) ≠ .none → ∃ m : Nat, 1 ≤ m
          ∧ Indent.detect (linesOf tabs) = ⟨m, some .tab⟩
          ∧ ∀ width, 2 ≤ width →
              Indent.detect (linesOf (spaces width)) = ⟨(width * m : Nat), some .space⟩
                ∧ (Listing.ofText drops (spaces width)).lines =
                    NestedLine.countAll (fun level => (level / m : Nat)) drops rows
                ∧ (m = 1 → (Listing.ofText drops (spaces width)).lines =
                    (Listing.ofText drops tabs).lines))
      ∧ ∀ width width', 2 ≤ width → 2 ≤ width' →
          (Listing.ofText drops (spaces width)).lines =
            (Listing.ofText drops (spaces width')).lines := by
  intro drops tabs spaces
  have hdetectTabs := Indent.detect_linesOf_textOf (NestedLine.newline_not_mem_tabbed rows)
  have hdetectSpaces := fun width =>
    Indent.detect_linesOf_textOf (NestedLine.newline_not_mem_spaced width rows)
  have htabs : (Listing.ofText drops tabs).lines =
      NestedLine.countAll (fun level => level) drops rows := NestedLine.lines_ofText_tabbed h rows
  rcases Indent.detect_spaced rows with ⟨hnone, hnones⟩ | ⟨m, hpos, hm, hms⟩
  · have hsame : ∀ width,
        (Listing.ofText drops (spaces width)).lines = (Listing.ofText drops tabs).lines := by
      intro width
      show (Listing.ofText drops (textOf _)).lines = _
      rw [NestedLine.map_spaced_eq_map_tabbed hnone width]
    refine ⟨fun width hwidth => ?_, htabs, fun _ width _ => hsame width,
      fun hne => absurd (hdetectTabs.trans hnone) hne,
      fun width width' _ _ => (hsame width).trans (hsame width').symm⟩
    rw [hdetectTabs, hdetectSpaces, hnone, hnones width hwidth]
  · have hlines : ∀ width, 2 ≤ width → (Listing.ofText drops (spaces width)).lines =
        NestedLine.countAll (fun level => (level / m : Nat)) drops rows :=
      fun width hwidth => NestedLine.lines_ofText_spaced h (by omega) hpos (hms width hwidth)
    have hstep : Indent.detect (linesOf tabs) ≠ .none := by
      rw [hdetectTabs, hm]
      exact fun heq => nomatch congrArg Indent.kind heq
    have hsteps : ∀ width, 2 ≤ width → Indent.detect (linesOf (spaces width)) ≠ .none := by
      intro width hwidth
      rw [hdetectSpaces, hms width hwidth]
      exact fun heq => nomatch congrArg Indent.kind heq
    refine ⟨fun width hwidth => iff_of_false hstep (hsteps width hwidth), htabs,
      fun heq => absurd heq hstep, fun _ => ⟨m, hpos, hdetectTabs.trans hm, fun width hwidth =>
        ⟨(hdetectSpaces width).trans (hms width hwidth), hlines width hwidth, ?_⟩⟩,
      fun width width' hwidth hwidth' => (hlines width hwidth).trans (hlines width' hwidth').symm⟩
    rintro rfl
    rw [hlines width hwidth, htabs]
    simp only [Nat.div_one]

/-- Levels of which only every other is used, with four spaces each. -/
theorem listing_of_style_four :
    let drops := Comment.drops (some Comment.defaultPattern)
    let rows : List NestedLine :=
      [⟨0, ['a'], by decide, Line.isFlush_cons.mpr rfl⟩,
        ⟨2, ['b'], by decide, Line.isFlush_cons.mpr rfl⟩,
        ⟨4, ['c'], by decide, Line.isFlush_cons.mpr rfl⟩]
    Comment.IsStandard (some Comment.defaultPattern)
      ∧ Indent.detect (linesOf (textOf (rows.map NestedLine.tabbed))) = ⟨2, some .tab⟩
      ∧ (Listing.ofText drops (textOf (rows.map (NestedLine.spaced 4)))).lines =
          NestedLine.countAll (fun level => (level / 2 : Nat)) drops rows := by
  intro drops rows
  have htabs : Indent.detect (linesOf (textOf (rows.map NestedLine.tabbed))) = ⟨2, some .tab⟩ := by
    rw [Indent.detect_linesOf_textOf (NestedLine.newline_not_mem_tabbed rows)]
    decide
  have hne : Indent.detect (linesOf (textOf (rows.map NestedLine.tabbed))) ≠ .none := by
    rw [htabs]
    decide
  obtain ⟨m, -, hm, hwidth⟩ := (listing_of_style (Or.inr rfl) rows).2.2.2.1 hne
  obtain rfl : m = 2 := by
    have hamount := congrArg Indent.amount (hm.symm.trans htabs)
    exact Int.ofNat.inj hamount
  exact ⟨Or.inr rfl, htabs, (hwidth 4 (by decide)).2.1⟩

end Nesting
