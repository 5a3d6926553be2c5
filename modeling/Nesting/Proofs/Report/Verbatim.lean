import Nesting.Proofs.Report.TableRows

/-!
# Lines and labels in a report for people

A listing is meant to show each line as it is, behind its number, its depth and a bar for each level
(`CountedLine.verbatim`), and a report to show each label as it is, in the table
(`StartsWithCell`) and before a reason (`LabelledReport.verbatimReason`). `reportsSummary_verbatim`
says what comes of that for texts that are showable: there is one line for each entry and one for
each report, all that stands around a text is as it is meant to be, and the text itself is exactly
when escaping keeps it. `listing_ne_verbatim` has texts that it does not keep.
-/

namespace Nesting

open Markup

/-- Texts that have nothing in them that a terminal shows in a way of its own: no controls, no
characters of two columns, and no codes with a picture. -/
structure IsShowable (pictures : Pictures) (s : List Char) : Prop where
  visible : IsVisible s
  narrow : IsNarrow s
  codes : HoldsNoCode pictures s

variable {pictures : Pictures}

/-! ## Styles -/

theorem styled_eq (style : String) (markup : List Char) :
    styled style markup =
      (Part.tag 0 style.toList).write ++ (markup ++ (Part.tag 0 ('/' :: style.toList)).write) := by
  simp [styled, Part.write]

theorem Markup.IsTag.slash_cons {t : List Char} (h : IsTag t) : IsTag ('/' :: t) :=
  ⟨rfl, List.forall_mem_cons.mpr ⟨by decide, h.2⟩⟩

theorem render_styled_append {style : String} (hstyle : IsTag style.toList) {s : List Char}
    (h : IsMarkupFree s) (rest : List Char) :
    render (styled style s ++ rest) = s ++ render rest := by
  rw [styled_eq, List.append_assoc, render_write_append hstyle, List.append_assoc,
    render_append_of_isMarkupFree h, render_write_append hstyle.slash_cons]

/-! ## Listings -/

/-- A line of a listing as it is meant to be read. -/
def CountedLine.verbatim (l : CountedLine) : List Char :=
  [' ', ' '] ++ (intText l.number).toList.leftpad 5 ' ' ++ [' ']
    ++ (intText l.depth).toList.leftpad 2 ' ' ++ [' ', ' ']
    ++ (List.replicate l.depth.toNat ['│', ' ']).flatten ++ l.content.toList

/-- A line of a listing as it is shown. -/
def CountedLine.shownLine (pictures : Pictures) (l : CountedLine) : List Char :=
  shown (pictured pictures l.markup)

theorem rightNumber_eq (width : Nat) (n : Int) :
    rightNumber width n = (intText n).toList.leftpad width ' ' := by
  rw [rightNumber, Side.pad, (isLiteral_intText n).textWidth_eq]
  rfl

theorem isLiteral_rightNumber (width : Nat) (n : Int) : IsLiteral (rightNumber width n) := by
  rw [rightNumber, Side.pad, isLiteral_append]
  exact ⟨isLiteral_replicate rfl _, isLiteral_intText n⟩

/-- What stands before a line in a listing. -/
def CountedLine.margin (l : CountedLine) : List Char :=
  [' ', ' '] ++ rightNumber 5 l.number ++ [' '] ++ rightNumber 2 l.depth ++ [' ', ' ']
    ++ (List.replicate l.depth.toNat ['│', ' ']).flatten

theorem CountedLine.verbatim_eq (l : CountedLine) :
    l.verbatim = l.margin ++ l.content.toList := by
  rw [verbatim, margin, rightNumber_eq, rightNumber_eq]

theorem forall_mem_bars {p : Char → Prop} (hbar : p '│') (hblank : p ' ') (n : Nat) :
    ∀ c ∈ (List.replicate n ['│', ' ']).flatten, p c := by
  intro c hc
  obtain ⟨bar, hmem, hc⟩ := List.mem_flatten.mp hc
  rw [List.eq_of_mem_replicate hmem] at hc
  rcases List.mem_cons.mp hc with rfl | hc
  · exact hbar
  · rw [List.mem_singleton.mp hc]
    exact hblank

theorem CountedLine.isVisible_margin (l : CountedLine) : IsVisible l.margin := by
  simp only [margin, isVisible_append]
  exact ⟨⟨⟨⟨⟨by decide, (isLiteral_rightNumber _ _).isVisible⟩, by decide⟩,
    (isLiteral_rightNumber _ _).isVisible⟩, by decide⟩, forall_mem_bars (by decide) (by decide) _⟩

theorem CountedLine.not_mem_colon_margin (l : CountedLine) : ':' ∉ l.margin := by
  have hbars := forall_mem_bars (p := (· ≠ ':')) (by decide) (by decide) l.depth.toNat
  have hnumber := (isLiteral_rightNumber 5 l.number).not_mem_colon
  have hdepth := (isLiteral_rightNumber 2 l.depth).not_mem_colon
  intro hmem
  simp only [margin, List.mem_append, hnumber, hdepth, or_false] at hmem
  rcases hmem with ((hmem | hmem) | hmem) | hmem
  · exact absurd hmem (by decide)
  · exact absurd hmem (by decide)
  · exact absurd hmem (by decide)
  · exact hbars ':' hmem rfl

theorem CountedLine.render_markup (l : CountedLine) :
    render l.markup = l.margin ++ render (escaped l.content) := by
  have hbars : IsMarkupFree (List.replicate l.depth.toNat ['│', ' ']).flatten :=
    forall_mem_bars (by decide) (by decide) _
  have hmarkup : l.markup = [' ', ' '] ++ (styled "dim" (rightNumber 5 l.number) ++ ([' '] ++
      (styled "cyan" (rightNumber 2 l.depth) ++ ([' ', ' '] ++ (styled "dim"
        (List.replicate l.depth.toNat ['│', ' ']).flatten ++ escaped l.content))))) := by
    simp [markup]
  rw [hmarkup, render_append_of_isMarkupFree (by decide), render_styled_append (by decide)
    (isLiteral_rightNumber _ _).isMarkupFree, render_append_of_isMarkupFree (by decide),
    render_styled_append (by decide) (isLiteral_rightNumber _ _).isMarkupFree,
    render_append_of_isMarkupFree (by decide), render_styled_append (by decide) hbars]
  simp [margin]

/-- Escaping and showing brings in nothing that a terminal acts on. -/
theorem isVisible_render_escape {s : List Char} (h : IsVisible s) :
    IsVisible (render (escape s)) := by
  intro c hc
  rcases mem_of_mem_escape (mem_of_mem_render hc) with hc | rfl
  · exact h c hc
  · decide

theorem CountedLine.isVisible_render_markup {l : CountedLine} (h : IsVisible l.content.toList) :
    IsVisible (render l.markup) := by
  rw [render_markup]
  exact isVisible_append.mpr ⟨l.isVisible_margin, isVisible_render_escape h⟩

theorem CountedLine.shownLine_eq_render {l : CountedLine}
    (h : IsShowable pictures l.content.toList) : l.shownLine pictures = render l.markup := by
  have hcodes : HoldsNoCode pictures (render l.markup) := by
    rw [render_markup]
    exact h.codes.render_escape.append l.not_mem_colon_margin
  rw [shownLine, pictured_eq_render hcodes, shown_of_isVisible (isVisible_render_markup h.visible)]

theorem CountedLine.not_mem_newline_shownLine {l : CountedLine}
    (h : IsShowable pictures l.content.toList) : '\n' ∉ l.shownLine pictures := by
  rw [shownLine_eq_render h]
  exact (isVisible_render_markup h.visible).not_mem_newline

/-- A text is shown as it is just when it is faithful. -/
theorem render_escape_eq_iff {s : List Char} : render (escape s) = s ↔ IsFaithful s := by
  refine ⟨fun h => ?_, render_escape⟩
  by_contra hnot
  refine not_prefix_of_not_isFaithful hnot (c := ' ') (by decide) [' '] ?_
  rw [h]

theorem CountedLine.shownLine_eq_verbatim_iff {l : CountedLine}
    (h : IsShowable pictures l.content.toList) :
    l.shownLine pictures = l.verbatim ↔ IsFaithful l.content.toList := by
  rw [shownLine_eq_render h, render_markup, verbatim_eq, List.append_cancel_left_eq, escaped,
    render_escape_eq_iff]

/-! ## Rows of the table -/

/-- A cell as it is shown, before it is set into its column. -/
def shownCell (pictures : Pictures) (markup : List Char) : List Char :=
  (pictured pictures markup).filter fun c => !isHiddenControl c

theorem shownCell_of_isLiteral {s : List Char} (h : IsLiteral s) : shownCell pictures s = s := by
  have hnil : render [] = [] := by rw [render, parts_nil]; rfl
  have hrender := render_append_of_isMarkupFree h.isMarkupFree []
  rw [hnil, List.append_nil] at hrender
  rw [shownCell, pictured_of_not_mem_colon h.not_mem_colon, hrender, h.isVisible.filter_eq]

theorem shownCell_escaped {label : String} (h : IsShowable pictures label.toList) :
    shownCell pictures (escaped label) = render (escaped label) := by
  rw [shownCell, escaped, pictured_eq_render h.codes.render_escape,
    (isVisible_render_escape h.visible).filter_eq]

/-- A level as it stands in its cell. -/
def Level.shownName (l : Level) : List Char :=
  l.name.toList.map Char.toUpper

theorem shownCell_levelMarkup (l : Level) : shownCell pictures l.markup = l.shownName := by
  have hcolon : ':' ∉ l.markup := by cases l <;> decide
  rw [shownCell, pictured_of_not_mem_colon hcolon]
  cases l <;> cbv

theorem Measures.isLiteral_of_mem_cells (m : Measures) : ∀ cell ∈ m.cells, IsLiteral cell := by
  simp only [cells, List.map_cons, List.map_nil, List.forall_mem_cons]
  exact ⟨isLiteral_intText _, isLiteral_intText _, isLiteral_fixedText _ _, isLiteral_generalText _,
    isLiteral_fixedText _ _, fun _ hnil => nomatch hnil⟩

namespace LabelledReport

/-- The cells of a row: the label, the score, the level, and others without tabs. -/
theorem exists_map_shownCell (pictures : Pictures) (r : LabelledReport) (wide : Bool) :
    ∃ others, (r.cells wide).map (shownCell pictures) =
        shownCell pictures (escaped r.label) :: (fixedText 2 r.report.grade.score).toList
          :: r.report.level.shownName :: others
      ∧ ∀ cell ∈ others, '\t' ∉ cell := by
  let others :=
    if wide then (r.report.measures?.map Measures.cells).getD (measureColumns.map fun _ => [])
    else []
  have hothers : ∀ cell ∈ others, IsLiteral cell := by
    dsimp only [others]
    split
    · cases r.report.measures? with
      | none =>
          intro cell hcell
          obtain ⟨c, -, rfl⟩ := List.mem_map.mp hcell
          exact isLiteral_nil
      | some m => exact m.isLiteral_of_mem_cells
    · exact fun _ hnil => nomatch hnil
  refine ⟨others, ?_, fun cell hcell => (hothers cell hcell).not_mem_tab⟩
  have hmap : others.map (shownCell pictures) = others :=
    (List.map_congr_left fun cell hcell => shownCell_of_isLiteral (hothers cell hcell)).trans
      (List.map_id _)
  rw [cells, List.map_append, hmap, List.map_cons, List.map_cons, List.map_cons,
    shownCell_of_isLiteral (isLiteral_fixedText _ _), shownCell_levelMarkup]
  rfl

/-- Whether a line of the table is the row of a report: what is shown of its label, its score and
its level, each in a column of some width, and what may stand behind them. -/
def IsShownIn (r : LabelledReport) (line : List Char) : Prop :=
  ∃ width width' width'' others, line = drawRow '│'
    (Side.left.pad width (render (escaped r.label))
      :: Side.right.pad width' (fixedText 2 r.report.grade.score).toList
      :: Side.left.pad width'' r.report.level.shownName :: others)

end LabelledReport

/-- The table has a block of lines for each report, which is a single row when the label is
showable. -/
theorem exists_summaryTable (pictures : Pictures) (rs : List LabelledReport) :
    ∃ head blocks foot, summaryTable pictures rs = head ++ blocks.flatten ++ foot
      ∧ head.length = 3 ∧ foot.length = 1
      ∧ List.Forall₂ (fun r block => block ≠ [] ∧
        (IsShowable pictures r.label.toList → ∃ row, block = [row] ∧ r.IsShownIn row))
        rs blocks := by
  let wide := rs.any (·.report.measures?.isSome)
  have hheads : ∀ c ∈ briefColumns ++ if wide then measureColumns else [], '\t' ∉ c.heading := by
    cases wide <;> decide
  obtain ⟨head, blocks, foot, htable, hhead, hfoot, hblocks⟩ :=
    exists_drawTable (List.cons_ne_nil _ _) hheads
      (rs.map fun r => (r.cells wide).map (shownCell pictures))
  refine ⟨head, blocks, foot, htable, hhead, hfoot, ?_⟩
  rw [List.forall₂_map_left_iff] at hblocks
  refine hblocks.imp fun r block ⟨hne, hrow⟩ => ?_
  obtain ⟨others, hcells, hothers⟩ := LabelledReport.exists_map_shownCell pictures r wide
  have hscore := (isLiteral_fixedText 2 r.report.grade.score).not_mem_tab
  rw [hcells] at hne hrow
  refine ⟨hne ⟨1, _, Nat.le_add_left _ _, rfl, hscore⟩, fun h => ?_⟩
  have hlabel := shownCell_escaped h
  have hlevel : '\t' ∉ r.report.level.shownName := by cases r.report.level <;> decide
  rw [hlabel] at hrow
  refine ⟨_, hrow (List.cons_ne_nil _ _) ?_, ?_⟩
  · simp only [List.forall_mem_cons]
    exact ⟨(isVisible_render_escape h.visible).not_mem_tab, hscore, hlevel, hothers⟩
  · exact ⟨_, _, _, _, rfl⟩

/-- The table has a row for each report when all labels are showable. -/
theorem exists_summaryTable_of_isShowable {rs : List LabelledReport}
    (h : ∀ r ∈ rs, IsShowable pictures r.label.toList) :
    ∃ head rows foot, summaryTable pictures rs = head ++ rows ++ foot
      ∧ head.length = 3 ∧ foot.length = 1 ∧ List.Forall₂ LabelledReport.IsShownIn rs rows := by
  obtain ⟨head, blocks, foot, htable, hhead, hfoot, hblocks⟩ := exists_summaryTable pictures rs
  have hrows : ∃ rows, blocks.flatten = rows ∧ List.Forall₂ LabelledReport.IsShownIn rs rows := by
    clear htable
    induction hblocks with
    | nil => exact ⟨[], rfl, .nil⟩
    | cons hblock _ ih =>
        obtain ⟨hr, hrs⟩ := List.forall_mem_cons.mp h
        obtain ⟨row, hsingle, hrow⟩ := hblock.2 hr
        obtain ⟨rows, hflatten, hrows⟩ := ih hrs
        exact ⟨row :: rows, by rw [List.flatten_cons, hsingle, hflatten]; rfl, .cons hrow hrows⟩
  obtain ⟨rows, hflatten, hrows⟩ := hrows
  exact ⟨head, rows, foot, hflatten ▸ htable, hhead, hfoot, hrows⟩

/-! ### Labels -/

/-- Whether a line of a table starts with a cell, set to the left of its column. -/
def StartsWithCell (cell line : List Char) : Prop :=
  ∃ n rest, line = '│' :: ' ' :: cell ++ (List.replicate n ' ' ++ ' ' :: '│' :: rest)

theorem startsWithCell_drawRow (width : Nat) (cell : List Char) (others : List (List Char)) :
    StartsWithCell cell (drawRow '│' (Side.left.pad width cell :: others)) := by
  refine ⟨width - textWidth cell, ?_⟩
  cases others with
  | nil => exact ⟨[], by simp [drawRow, Side.pad]⟩
  | cons other others =>
      rw [drawRow, List.map_cons, List.map_cons, List.intercalate_cons_cons, Side.pad]
      simp only [List.append_assoc, List.cons_append, List.nil_append]
      exact ⟨_, rfl⟩

theorem startsWithCell_iff {s line : List Char} (h : StartsWithCell (render (escape s)) line) :
    StartsWithCell s line ↔ IsFaithful s := by
  constructor
  · rintro ⟨n, rest, hline⟩
    obtain ⟨m, rest', rfl⟩ := h
    by_contra hnot
    -- A blank follows the label even in the widest row, so a backslash too many does not go unseen.
    refine not_prefix_of_not_isFaithful hnot (c := ' ') (by decide)
      (List.replicate m ' ' ++ ' ' :: '│' :: rest') ?_
    have hcells : render (escape s) ++ (List.replicate m ' ' ++ ' ' :: '│' :: rest') =
        s ++ (List.replicate n ' ' ++ ' ' :: '│' :: rest) :=
      (List.cons.inj (List.cons.inj hline).2).2
    rw [hcells, List.prefix_append_right_inj]
    cases n with
    | zero => exact ⟨_, rfl⟩
    | succ n => exact ⟨_, rfl⟩
  · intro hfaithful
    rwa [render_escape hfaithful] at h

theorem LabelledReport.IsShownIn.startsWithCell_iff {r : LabelledReport} {row : List Char}
    (h : r.IsShownIn row) :
    StartsWithCell r.label.toList row ↔ IsFaithful r.label.toList := by
  obtain ⟨width, width', width'', others, rfl⟩ := h
  exact Nesting.startsWithCell_iff (startsWithCell_drawRow width _ _)

/-! ## Labels before a reason -/

namespace LabelledReport

/-- The line with the reason as it is shown. -/
def reasonLine (pictures : Pictures) (several : Bool) (r : LabelledReport) : List Char :=
  shown (pictured pictures (r.reasonMarkup several))

/-- What is shown of a label in front of the reason. -/
def shownLabel (r : LabelledReport) : List Char :=
  render (escaped r.label ++ (Part.tag 0 ('/' :: "bold".toList)).write)

theorem isVisible_shownLabel {r : LabelledReport} (h : IsVisible r.label.toList) :
    IsVisible r.shownLabel := by
  intro c hc
  rcases List.mem_append.mp (mem_of_mem_render hc) with hc | hc
  · rcases mem_of_mem_escape hc with hc | rfl
    · exact h c hc
    · decide
  · have htag : IsVisible (Part.tag 0 ('/' :: "bold".toList)).write := by decide
    exact htag c hc

theorem pictured_reasonMarkup {r : LabelledReport} (h : HoldsNoCode pictures r.label.toList) :
    pictured pictures (r.reasonMarkup true) =
      r.shownLabel ++ [':', ' '] ++ pictured pictures r.report.grade.reason.toList := by
  have hbold : IsTag "bold".toList := by decide
  have hmarkup : r.reasonMarkup true =
      (Part.tag 0 "bold".toList).write ++ (escape r.label.toList ++
        ((Part.tag 0 ('/' :: "bold".toList)).write ++
          ([':', ' '] ++ r.report.grade.reason.toList))) := by
    simp only [reasonMarkup, styled_eq, escaped, if_true, List.append_assoc]
  rw [hmarkup, pictured_write_append hbold,
    pictured_escape_append_write_append hbold.slash_cons (by decide) h,
    pictured_colon_blank_append, List.append_assoc]
  rfl

theorem reasonLine_eq {r : LabelledReport} (h : IsShowable pictures r.label.toList) :
    r.reasonLine pictures true = r.shownLabel ++ [':', ' '] ++
      shownFrom (textWidth (r.shownLabel ++ [':', ' ']))
        (pictured pictures r.report.grade.reason.toList) := by
  have hvisible : Nesting.IsVisible (r.shownLabel ++ [':', ' ']) :=
    isVisible_append.mpr ⟨isVisible_shownLabel h.visible, by decide⟩
  rw [reasonLine, pictured_reasonMarkup h.codes, shown_append hvisible]

/-- The line with the reason as it is meant to be read. -/
def verbatimReason (pictures : Pictures) (r : LabelledReport) : List Char :=
  r.label.toList ++ [':', ' '] ++
    shownFrom (textWidth (r.label.toList ++ [':', ' ']))
      (pictured pictures r.report.grade.reason.toList)

theorem reasonLine_eq_verbatimReason_iff {r : LabelledReport}
    (h : IsShowable pictures r.label.toList) :
    r.reasonLine pictures true = r.verbatimReason pictures ↔
      IsFaithfulBeforeTag r.label.toList := by
  have hbold : IsTag ('/' :: "bold".toList) := by decide
  rw [reasonLine_eq h]
  constructor
  · intro hline
    by_contra hnot
    -- What is shown of the reason can have any shape, but it stands behind the colon.
    have hlabel : r.label.toList <+: r.shownLabel ++ ([':', ' '] ++
        shownFrom (textWidth (r.shownLabel ++ [':', ' ']))
          (pictured pictures r.report.grade.reason.toList)) := by
      rw [← List.append_assoc, hline, verbatimReason, List.append_assoc]
      exact List.prefix_append _ _
    exact not_prefix_of_not_isFaithfulBeforeTag hnot hbold (by simp) hlabel
  · intro hfaithful
    have hlabel : r.shownLabel = r.label.toList := render_escape_append_write hfaithful hbold
    rw [hlabel]
    rfl

/-! ## The whole summary -/

/-- Reports whose labels and lines are showable. -/
structure IsShowable (pictures : Pictures) (r : LabelledReport) : Prop where
  label : Nesting.IsShowable pictures r.label.toList
  lines : ∀ l ∈ r.report.lines?.getD [], Nesting.IsShowable pictures l.content.toList

/-- The lines of the listing as they are shown. -/
def listing (pictures : Pictures) (r : LabelledReport) : List (List Char) :=
  (r.report.lines?.getD []).map (·.shownLine pictures)

/-- All that is shown about a report below the table, line by line. -/
def detailLines (pictures : Pictures) (several : Bool) (r : LabelledReport) : List (List Char) :=
  (r.detailMarkup several).map fun markup => shown (pictured pictures markup)

theorem exists_detailLines (several : Bool) (r : LabelledReport) :
    ∃ counts, r.detailLines pictures several =
        r.reasonLine pictures several :: counts ++ r.listing pictures
      ∧ counts.length ≤ 1 := by
  have hmarkup : ∃ counts, r.detailMarkup several = r.reasonMarkup several :: counts ++
      (r.report.lines?.getD []).map CountedLine.markup ∧ counts.length ≤ 1 := by
    refine ⟨_, rfl, ?_⟩
    cases r.report.measures? with
    | none => exact Nat.zero_le _
    | some m =>
        dsimp only
        split
        · exact Nat.zero_le _
        · exact Nat.le_refl _
  obtain ⟨counts, hmarkup, hlength⟩ := hmarkup
  refine ⟨counts.map fun markup => shown (pictured pictures markup), ?_, by rwa [List.length_map]⟩
  rw [detailLines, hmarkup, List.map_append, List.map_map]
  rfl

end LabelledReport

/-- Lines with the line feeds behind them. -/
def unlines (lines : List (List Char)) : String :=
  String.join (lines.map fun l => String.ofList (l ++ ['\n']))

theorem unlines_append (lines rest : List (List Char)) :
    unlines (lines ++ rest) = unlines lines ++ unlines rest := by
  rw [unlines, List.map_append, String.join_append]
  rfl

theorem reportsSummary_eq (rs : List LabelledReport) :
    reportsSummary pictures rs = unlines ([] :: summaryTable pictures rs ++
      rs.flatMap fun r => r.detailLines pictures (1 < rs.length)) := by
  have hdetails : (rs.flatMap fun r => r.detailLines pictures (1 < rs.length)) =
      (rs.flatMap (·.detailMarkup (1 < rs.length))).map
        fun markup => shown (pictured pictures markup) := by
    rw [List.map_flatMap]
    rfl
  rw [unlines_append, hdetails, reportsSummary, unlines, unlines, List.map_cons, String.join_cons,
    List.map_map]
  rfl

/-- **The summary, line by line.** The table has a line for each report, which starts with the label
just when the label is faithful; and below the table the reason, the counts and the listing follow
for each report in order. Where there are several reports the reason has the label in front of it
just when the label is faithful before a tag, and a line of the listing is shown as one line, which
is the line as it is meant to be read just when the line is faithful. -/
theorem reportsSummary_verbatim {pictures : Pictures} {rs : List LabelledReport}
    (h : ∀ r ∈ rs, r.IsShowable pictures) :
    reportsSummary pictures rs = unlines ([] :: summaryTable pictures rs ++
        rs.flatMap fun r => r.detailLines pictures (1 < rs.length))
      ∧ (∃ head rows foot, summaryTable pictures rs = head ++ rows ++ foot ∧ head.length = 3
        ∧ foot.length = 1 ∧ List.Forall₂
          (fun r row => StartsWithCell r.label.toList row ↔ IsFaithful r.label.toList) rs rows)
      ∧ ∀ r ∈ rs,
        (∃ counts, r.detailLines pictures (1 < rs.length) =
          r.reasonLine pictures (1 < rs.length) :: counts ++ r.listing pictures
            ∧ counts.length ≤ 1)
        ∧ (r.reasonLine pictures true = r.verbatimReason pictures ↔
          IsFaithfulBeforeTag r.label.toList)
        ∧ List.Forall₂ (fun l line => '\n' ∉ line
          ∧ (line = l.verbatim ↔ IsFaithful l.content.toList))
          (r.report.lines?.getD []) (r.listing pictures) := by
  obtain ⟨head, rows, foot, htable, hhead, hfoot, hrows⟩ :=
    exists_summaryTable_of_isShowable fun r hr => (h r hr).label
  refine ⟨reportsSummary_eq rs, ⟨head, rows, foot, htable, hhead, hfoot,
    hrows.imp fun r row hrow => hrow.startsWithCell_iff⟩, fun r hr => ?_⟩
  refine ⟨r.exists_detailLines _,
    LabelledReport.reasonLine_eq_verbatimReason_iff (h r hr).label, ?_⟩
  rw [LabelledReport.listing, List.forall₂_map_right_iff, List.forall₂_same]
  intro l hl
  have hshowable := (h r hr).lines l hl
  exact ⟨l.not_mem_newline_shownLine hshowable, CountedLine.shownLine_eq_verbatim_iff hshowable⟩

/-- A picture for one code. -/
def Pictures.smile : Pictures where
  find? name := if name = "smile" then some "😄" else Option.none
  plain name h := by
    have hname : name = "smile" := by
      by_contra hne
      exact h (if_neg hne)
    rw [hname]
    simp

/-- A backslash before a tag is kept, and so are two at the end of a line and one at the end of a
label before a reason. -/
theorem reportsSummary_verbatim_slashes :
    let r : LabelledReport :=
      ⟨"src\\", .listed ⟨1, .low, "low"⟩ (.ofDepths [1]) [⟨7, 1, "\\[x] = [1] \\\\"⟩]⟩
    (∀ s ∈ [r, r], s.IsShowable .smile)
      ∧ r.reasonLine .smile true = r.verbatimReason .smile
      ∧ r.listing .smile = ["      7  1  │ \\[x] = [1] \\\\".toList] := by
  intro r
  have hshowable : r.IsShowable .smile := by
    refine ⟨⟨by decide, by decide, holdsNoCode_of_not_mem (by decide)⟩, fun l hl => ?_⟩
    rw [List.mem_singleton.mp hl]
    exact ⟨by decide, by decide, holdsNoCode_of_not_mem (by decide)⟩
  have h : ∀ s ∈ [r, r], s.IsShowable .smile := by
    intro s hs
    have hsame : s = r := by simpa using hs
    rw [hsame]
    exact hshowable
  obtain ⟨-, hreason, hlisting⟩ := (reportsSummary_verbatim h).2.2 r List.mem_cons_self
  have hline := (List.forall₂_cons.mp hlisting).1.2.mpr (by decide)
  refine ⟨h, hreason.mpr (by decide), ?_⟩
  have hverbatim : CountedLine.verbatim ⟨7, 1, "\\[x] = [1] \\\\"⟩ =
      "      7  1  │ \\[x] = [1] \\\\".toList := by cbv
  rw [← hverbatim, ← hline]
  rfl

/-- A backslash before a bracket that opens no tag is lost, and one at the end of a line is shown
as two. Of three at the end of a label one is left before a reason, and the tag there is shown. -/
theorem listing_ne_verbatim :
    let r : LabelledReport := ⟨"src\\\\\\", .listed ⟨0, .low, "low"⟩ (.ofDepths [0, 0])
      [⟨1, 0, "\\[1]"⟩, ⟨2, 0, "x \\"⟩]⟩
    r.IsShowable .none
      ∧ r.listing .none = ["      1  0  [1]".toList, "      2  0  x \\\\".toList]
      ∧ r.listing .none ≠ (r.report.lines?.getD []).map CountedLine.verbatim
      ∧ r.reasonLine .none true = "src\\[/bold]: low".toList
      ∧ r.reasonLine .none true ≠ r.verbatimReason .none := by
  intro r
  have hshowable {s : List Char} (hvisible : IsVisible s) (hnarrow : IsNarrow s) :
      IsShowable .none s := ⟨hvisible, hnarrow, fun _ _ => rfl⟩
  have hfirst : IsShowable .none "\\[1]".toList := hshowable (by decide) (by decide)
  have hlabel : IsShowable .none r.label.toList := hshowable (by decide) (by decide)
  have hr : r.IsShowable .none := by
    refine ⟨hlabel, fun l hl => ?_⟩
    rcases List.mem_cons.mp hl with rfl | hl
    · exact hfirst
    · rw [List.mem_singleton.mp hl]
      exact hshowable (by decide) (by decide)
  have hline : CountedLine.shownLine .none ⟨1, 0, "\\[1]"⟩ = "      1  0  [1]".toList := by cbv
  have hline' : CountedLine.shownLine .none ⟨2, 0, "x \\"⟩ = "      2  0  x \\\\".toList := by cbv
  have hlisting : r.listing .none = ["      1  0  [1]".toList, "      2  0  x \\\\".toList] := by
    rw [← hline, ← hline']
    rfl
  have hreason : shown (pictured .none
      (styled "bold" (escaped "src\\\\\\") ++ [':', ' '] ++ "low".toList)) =
      "src\\[/bold]: low".toList := by cbv
  refine ⟨hr, hlisting, fun heq => ?_, hreason, fun heq => ?_⟩
  · have hsame : CountedLine.shownLine .none ⟨1, 0, "\\[1]"⟩ =
        CountedLine.verbatim ⟨1, 0, "\\[1]"⟩ := (List.cons.inj heq).1
    exact absurd ((CountedLine.shownLine_eq_verbatim_iff hfirst).mp hsame) (by decide)
  · exact absurd ((LabelledReport.reasonLine_eq_verbatimReason_iff hlabel).mp heq) (by decide)

end Nesting
