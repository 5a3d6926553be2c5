import Mathlib.Data.List.Forall2
import Nesting.Proofs.Report.PlainText

/-!
# Rows of a table

No cell is wider than its column, so a row takes one line as long as no cell of it has a tab
(`drawCells_eq_of_fits`), and at least one line otherwise. So a table has a block of lines for each
of its rows, between three lines for the headings and one at the end (`exists_drawTable`).
-/

namespace Nesting

theorem le_foldl_max {l : List Nat} {a b : Nat} (h : b = a ∨ b ∈ l) : b ≤ l.foldl max a := by
  induction l generalizing a b with
  | nil => exact h.elim Nat.le_of_eq fun hb => nomatch hb
  | cons d l ih =>
      have hle : max a d ≤ l.foldl max (max a d) := ih (Or.inl rfl)
      rcases h with rfl | hb
      · exact (Nat.le_max_left _ _).trans hle
      · rcases List.mem_cons.mp hb with rfl | hb
        · exact (Nat.le_max_right _ _).trans hle
        · exact ih (Or.inr hb)

theorem Column.textWidth_le_width {c : Column} {cell : List Char} {cells : List (List Char)}
    (h : cell ∈ c.heading :: cells) : textWidth cell ≤ c.width cells :=
  le_foldl_max (Or.inr (List.mem_map_of_mem h))

/-- Whether a cell takes one line in a column of some width. -/
structure Fits (width : Nat) (cell : List Char) : Prop where
  untabbed : '\t' ∉ cell
  narrow : textWidth cell ≤ width

theorem Fits.fitInto_eq {width : Nat} {cell : List Char} (h : Fits width cell) :
    fitInto width (expandTabs 0 cell) = [cell] := by
  rw [expandTabs_of_not_mem h.untabbed, fitInto_of_le h.narrow]

theorem foldl_max_replicate_one (n : Nat) : (List.replicate n 1).foldl max 1 = 1 := by
  induction n with
  | zero => rfl
  | succ n ih => exact ih

/-- The cells of a row as lines, each as wide as its column. -/
def fittedCells (columns : List (Column × Nat)) (cells : List (List Char)) :
    List (List (List Char)) :=
  (columns.zip cells).map fun p => (fitInto p.1.2 (expandTabs 0 p.2)).map (p.1.1.side.pad p.1.2)

theorem drawCells_eq (bar : Char) (columns : List (Column × Nat)) (cells : List (List Char)) :
    drawCells bar columns cells =
      (List.range (((fittedCells columns cells).map (·.length)).foldl max 0)).map fun i =>
        drawRow bar ((columns.zip (fittedCells columns cells)).map fun p =>
          p.2.getD i (List.replicate p.1.2 ' ')) :=
  rfl

/-- The cells of a row, each as wide as its column. -/
def paddedCells (columns : List (Column × Nat)) (cells : List (List Char)) : List (List Char) :=
  (columns.zip cells).map fun p => p.1.1.side.pad p.1.2 p.2

/-- Cells that fit into their columns are drawn as one line. -/
theorem drawCells_eq_of_fits {bar : Char} {columns : List (Column × Nat)} {cells : List (List Char)}
    (hne : columns.zip cells ≠ []) (h : ∀ p ∈ columns.zip cells, Fits p.1.2 p.2) :
    drawCells bar columns cells = [drawRow bar (paddedCells columns cells)] := by
  have hfitted : fittedCells columns cells = (paddedCells columns cells).map ([·]) := by
    rw [fittedCells, paddedCells, List.map_map]
    refine List.map_congr_left fun p hp => ?_
    rw [(h p hp).fitInto_eq]
    rfl
  have hheight : ((fittedCells columns cells).map (·.length)).foldl max 0 = 1 := by
    obtain ⟨p, ps, hps⟩ := List.exists_cons_of_ne_nil hne
    have hlengths : (fittedCells columns cells).map (·.length) =
        1 :: List.replicate ps.length 1 := by
      rw [hfitted, paddedCells, hps, List.map_map, List.map_map, ← List.replicate_succ]
      exact List.map_const' ..
    rw [hlengths]
    exact foldl_max_replicate_one _
  have hlines : ((columns.zip (fittedCells columns cells)).map fun p =>
      p.2.getD 0 (List.replicate p.1.2 ' ')) = paddedCells columns cells := by
    have hlength : (paddedCells columns cells).length ≤ columns.length := by
      rw [paddedCells, List.length_map, List.length_zip]
      exact Nat.min_le_left _ _
    conv_rhs => rw [← List.map_snd_zip hlength]
    rw [hfitted, List.zip_map_right, List.map_map]
    rfl
  rw [drawCells_eq, hheight]
  exact congrArg (fun cells => [drawRow bar cells]) hlines

section

variable (columns : List Column) (rows : List (List (List Char)))

def columnWidths : List Nat :=
  columns.zipIdx.map fun (c, i) => c.width (rows.map fun r => r.getD i [])

def measuredColumns : List (Column × Nat) :=
  columns.zip (columnWidths columns rows)

theorem drawTable_eq :
    drawTable columns rows =
      Rule.top.draw (columnWidths columns rows) ::
          drawCells '┃' (measuredColumns columns rows) (columns.map (·.heading)) ++
        Rule.belowHeadings.draw (columnWidths columns rows) ::
          rows.flatMap (drawCells '│' (measuredColumns columns rows)) ++
        [Rule.bottom.draw (columnWidths columns rows)] :=
  rfl

/-- Every cell without tabs fits into its column that is the heading or stands in some row. -/
theorem fits_of_mem_zip {cells : List (List Char)}
    (hcells : ∀ i (hi : i < cells.length) (hc : i < columns.length),
      cells[i] ∈ columns[i].heading :: rows.map fun r => r.getD i []) :
    ∀ p ∈ (measuredColumns columns rows).zip cells, '\t' ∉ p.2 → Fits p.1.2 p.2 := by
  intro p hp htab
  obtain ⟨i, hi, rfl⟩ := List.mem_iff_getElem.mp hp
  rw [List.length_zip, Nat.lt_min] at hi
  have hc : i < columns.length := by
    have hlength := hi.1
    rw [measuredColumns, List.length_zip] at hlength
    omega
  refine ⟨htab, ?_⟩
  rw [List.getElem_zip]
  have hwidth := Column.textWidth_le_width (hcells i hi.2 hc)
  simpa [measuredColumns, columnWidths] using hwidth

end

/-- Cells one of which fits into its column take a line at least. -/
theorem drawCells_ne_nil {bar : Char} {columns : List (Column × Nat)} {cells : List (List Char)}
    {p : (Column × Nat) × List Char} (hp : p ∈ columns.zip cells) (h : Fits p.1.2 p.2) :
    drawCells bar columns cells ≠ [] := by
  have hline : 1 ∈ (fittedCells columns cells).map (·.length) := by
    refine List.mem_map.mpr ⟨_, List.mem_map_of_mem hp, ?_⟩
    rw [h.fitInto_eq]
    rfl
  have hheight := le_foldl_max (a := 0) (Or.inr hline)
  rw [drawCells_eq, Ne, List.map_eq_nil_iff, List.range_eq_nil]
  omega

/-- A table has a block of lines for each row that has a cell without tabs, and a single line for
each row that has no others. -/
theorem exists_drawTable {columns : List Column} (hne : columns ≠ [])
    (hheads : ∀ c ∈ columns, '\t' ∉ c.heading) (rows : List (List (List Char))) :
    ∃ head blocks foot, drawTable columns rows = head ++ blocks.flatten ++ foot
      ∧ head.length = 3 ∧ foot.length = 1
      ∧ List.Forall₂ (fun row block =>
        ((∃ i cell, i < columns.length ∧ row[i]? = some cell ∧ '\t' ∉ cell) → block ≠ [])
          ∧ (row ≠ [] → (∀ cell ∈ row, '\t' ∉ cell) →
            block = [drawRow '│' (paddedCells (measuredColumns columns rows) row)]))
        rows blocks := by
  have hmeasured : measuredColumns columns rows ≠ [] := by
    obtain ⟨c, columns, rfl⟩ := List.exists_cons_of_ne_nil hne
    exact List.cons_ne_nil _ _
  have hheading : drawCells '┃' (measuredColumns columns rows) (columns.map (·.heading)) =
      [drawRow '┃' (paddedCells (measuredColumns columns rows) (columns.map (·.heading)))] := by
    refine drawCells_eq_of_fits (by simpa using ⟨hmeasured, hne⟩) fun p hp => ?_
    refine fits_of_mem_zip columns rows (fun i hi hc => ?_) p hp ?_
    · rw [List.getElem_map]
      exact List.mem_cons_self
    · obtain ⟨c, hc, hheading⟩ := List.mem_map.mp (List.of_mem_zip hp).2
      rw [← hheading]
      exact hheads c hc
  have hfits : ∀ row ∈ rows, ∀ p ∈ (measuredColumns columns rows).zip row,
      '\t' ∉ p.2 → Fits p.1.2 p.2 := by
    intro row hrow
    refine fits_of_mem_zip columns rows fun i hi hc => ?_
    refine List.mem_cons_of_mem _ (List.mem_map.mpr ⟨_, hrow, ?_⟩)
    rw [List.getD_eq_getElem _ _ hi]
  refine ⟨[Rule.top.draw (columnWidths columns rows),
      drawRow '┃' (paddedCells (measuredColumns columns rows) (columns.map (·.heading))),
      Rule.belowHeadings.draw (columnWidths columns rows)],
    rows.map (drawCells '│' (measuredColumns columns rows)),
    [Rule.bottom.draw (columnWidths columns rows)], ?_, rfl, rfl, ?_⟩
  · rw [drawTable_eq, hheading, List.flatMap_def]
    rfl
  · rw [List.forall₂_map_right_iff, List.forall₂_same]
    intro row hrow
    constructor
    · rintro ⟨i, cell, hi, hcell, htab⟩
      have hlength : i < (measuredColumns columns rows).length := by
        simpa [measuredColumns, columnWidths] using hi
      have hmem : ((measuredColumns columns rows)[i], cell) ∈
          (measuredColumns columns rows).zip row :=
        List.mem_of_getElem? (List.getElem?_zip_eq_some.mpr
          ⟨List.getElem?_eq_getElem hlength, hcell⟩)
      exact drawCells_ne_nil hmem (hfits row hrow _ hmem htab)
    · intro hcells htabs
      exact drawCells_eq_of_fits (by simpa using ⟨hmeasured, hcells⟩) fun p hp =>
        hfits row hrow p hp (htabs _ (List.of_mem_zip hp).2)

end Nesting
