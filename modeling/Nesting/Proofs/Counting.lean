import Mathlib.Data.List.DropRight
import Mathlib.Data.List.Forall2
import Mathlib.Data.List.TakeWhile
import Nesting.Listing

/-!
# The count of the lines

`countLines` as a recursion: `countFrom` counts from any number on, so that an induction over the
lines can move the number along (`countFrom_cons`). What follows from it holds of every listing:
the numbers ascend (`pairwise_countFrom`), each counted line comes from the line at its number
(`mem_countFrom`), and depth and content do not depend on the number (`map_measured_countFrom`).

Two texts are counted alike when their lines are, one by one (`countFrom_congr`).
-/

namespace Nesting

variable {unit : Int} {drops : Line → Bool}

/-- Nothing is left of a line without its blanks just when it has nothing but blanks. -/
theorem Line.trim_eq_nil_iff {l : Line} : l.trim = [] ↔ ∀ c ∈ l, isBlank c = true := by
  rw [trim, trimEnd, List.reverse_eq_nil_iff, List.dropWhile_eq_nil_iff]
  simp only [List.mem_reverse]
  constructor
  · intro h c hc
    rw [← List.takeWhile_append_dropWhile (p := isBlank) (l := l), List.mem_append] at hc
    rcases hc with hc | hc
    · exact List.mem_takeWhile_imp hc
    · exact h c hc
  · intro h c hc
    exact h c ((List.dropWhile_sublist isBlank).subset hc)

theorem Line.head?_dropWhile_isBlank {l : Line} {c : Char} (h : c ∈ (l.dropWhile isBlank).head?) :
    isBlank c = false := by
  have hnot := List.head?_dropWhile_not isBlank l
  rw [Option.mem_def.mp h] at hnot
  exact hnot

/-- Taking away the blanks at the end leaves the start as it is. -/
theorem Line.trimEnd_prefix (l : Line) : l.trimEnd <+: l :=
  List.rdropWhile_prefix isBlank l

namespace CountedLine

theorem ofLine?_eq_some_iff {l : Line} {n : Nat} {c : CountedLine} :
    ofLine? unit drops l n = some c ↔
      l.trim ≠ [] ∧ drops l = false ∧ c = ⟨n, l.depth unit, String.ofList l.trim⟩ := by
  rw [ofLine?]
  by_cases h : l.trim = [] ∨ drops l
  · rw [if_pos h]
    rcases h with h | h <;> simp [h]
  · rw [if_neg h]
    obtain ⟨htrim, hdrops⟩ := not_or.mp h
    simp [htrim, hdrops, eq_comm]

theorem number_of_ofLine? {l : Line} {n : Nat} {c : CountedLine}
    (h : ofLine? unit drops l n = some c) : c.number = n := by
  obtain ⟨-, -, rfl⟩ := ofLine?_eq_some_iff.mp h
  rfl

/-- What is measured of a line: all of it but its number. -/
def measured (c : CountedLine) : Int × String := (c.depth, c.content)

/-- Where a line stands and what it holds: all of it but its depth. -/
def place (c : CountedLine) : Int × String := (c.number, c.content)

/-- What is measured of a line that counts. -/
def measured? (unit : Int) (drops : Line → Bool) (l : Line) : Option (Int × String) :=
  (ofLine? unit drops l 0).map measured

theorem map_measured_ofLine? (l : Line) (n : Nat) :
    (ofLine? unit drops l n).map measured = measured? unit drops l := by
  simp only [measured?, ofLine?]
  split <;> rfl

end CountedLine

/-! ## Counting from a number on -/

/-- The lines that count, numbered from some number on. -/
def countFrom (first : Nat) (unit : Int) (drops : Line → Bool) (lines : List Line) :
    List CountedLine :=
  (lines.zipIdx first).filterMap fun p => CountedLine.ofLine? unit drops p.1 p.2

theorem countLines_eq_countFrom (lines : List Line) :
    countLines unit drops lines = countFrom 1 unit drops lines := rfl

@[simp] theorem countFrom_nil (first : Nat) : countFrom first unit drops [] = [] := rfl

theorem countFrom_cons (first : Nat) (l : Line) (rest : List Line) :
    countFrom first unit drops (l :: rest) =
      (CountedLine.ofLine? unit drops l first).toList ++ countFrom (first + 1) unit drops rest := by
  simp only [countFrom, List.zipIdx_cons, List.filterMap_cons]
  cases CountedLine.ofLine? unit drops l first <;> rfl

theorem countFrom_append (first : Nat) (lines lines' : List Line) :
    countFrom first unit drops (lines ++ lines') =
      countFrom first unit drops lines ++ countFrom (first + lines.length) unit drops lines' := by
  rw [countFrom, List.zipIdx_append, List.filterMap_append]
  rfl

theorem mem_countFrom {c : CountedLine} {first : Nat} {lines : List Line} :
    c ∈ countFrom first unit drops lines ↔
      ∃ i l, lines[i]? = some l ∧ CountedLine.ofLine? unit drops l (first + i) = some c := by
  simp only [countFrom, List.mem_filterMap, Prod.exists, List.mem_zipIdx_iff_le_and_getElem?_sub]
  constructor
  · rintro ⟨l, n, ⟨hle, hl⟩, hc⟩
    exact ⟨n - first, l, hl, by rw [Nat.add_sub_cancel' hle]; exact hc⟩
  · rintro ⟨i, l, hl, hc⟩
    exact ⟨l, first + i, ⟨Nat.le_add_right .., by rw [Nat.add_sub_cancel_left]; exact hl⟩, hc⟩

/-- The counted lines come from the lines that are neither blank nor dropped. -/
theorem mem_countFrom_iff {c : CountedLine} {first : Nat} {lines : List Line} :
    c ∈ countFrom first unit drops lines ↔
      ∃ (i : Nat) (l : Line), lines[i]? = some l ∧ l.trim ≠ [] ∧ drops l = false
        ∧ c = ⟨(first + i : Nat), l.depth unit, String.ofList l.trim⟩ := by
  simp only [mem_countFrom, CountedLine.ofLine?_eq_some_iff]

theorem le_number_of_mem_countFrom {c : CountedLine} {first : Nat} {lines : List Line}
    (hc : c ∈ countFrom first unit drops lines) : (first : Int) ≤ c.number := by
  obtain ⟨i, l, -, h⟩ := mem_countFrom.mp hc
  rw [CountedLine.number_of_ofLine? h]
  omega

/-- Behind the first line, every number is one more than the place in the rest. -/
theorem getElem?_number_cons {c : CountedLine} {first : Nat} {lines : List Line}
    (hc : c ∈ countFrom (first + 1) unit drops lines) (l : Line) (rest : List Line) :
    (l :: rest)[c.number.toNat - first]? = rest[c.number.toNat - (first + 1)]? := by
  have hle := le_number_of_mem_countFrom hc
  obtain ⟨k, hk⟩ : ∃ k, c.number.toNat - first = k + 1 :=
    ⟨c.number.toNat - (first + 1), by omega⟩
  rw [hk, List.getElem?_cons_succ, show c.number.toNat - (first + 1) = k by omega]

/-- The numbers of a count ascend. -/
theorem pairwise_countFrom (first : Nat) (lines : List Line) :
    (countFrom first unit drops lines).Pairwise fun c c' => c.number < c'.number := by
  induction lines generalizing first with
  | nil => exact List.Pairwise.nil
  | cons l rest ih =>
      rw [countFrom_cons]
      cases h : CountedLine.ofLine? unit drops l first with
      | none => exact ih (first + 1)
      | some c =>
          refine List.pairwise_cons.mpr ⟨fun c' hc' => ?_, ih (first + 1)⟩
          have hle := le_number_of_mem_countFrom hc'
          rw [CountedLine.number_of_ofLine? h]
          omega

theorem map_measured_countFrom (first : Nat) (lines : List Line) :
    (countFrom first unit drops lines).map CountedLine.measured =
      lines.filterMap (CountedLine.measured? unit drops) := by
  induction lines generalizing first with
  | nil => rfl
  | cons l rest ih =>
      rw [countFrom_cons, List.map_append, ih, List.filterMap_cons,
        ← CountedLine.map_measured_ofLine? l first]
      cases CountedLine.ofLine? unit drops l first <;> rfl

theorem Listing.depths_eq_map_measured (l : Listing) :
    l.depths = (l.lines.map CountedLine.measured).map Prod.fst := by
  rw [List.map_map]
  rfl

/-- Which lines count, and with which contents, does not depend on the unit. -/
theorem map_place_countFrom (unit unit' : Int) (first : Nat) (lines : List Line) :
    (countFrom first unit drops lines).map CountedLine.place =
      (countFrom first unit' drops lines).map CountedLine.place := by
  induction lines generalizing first with
  | nil => rfl
  | cons l rest ih =>
      rw [countFrom_cons, countFrom_cons, List.map_append, List.map_append, ih]
      simp only [CountedLine.ofLine?]
      split <;> rfl

/-- Lines that count alike one by one count alike. -/
theorem countFrom_congr {unit' : Int} {drops' : Line → Bool} {lines lines' : List Line}
    (h : List.Forall₂ (fun l l' => ∀ n,
      CountedLine.ofLine? unit drops l n = CountedLine.ofLine? unit' drops' l' n) lines lines')
    (first : Nat) : countFrom first unit drops lines = countFrom first unit' drops' lines' := by
  induction h generalizing first with
  | nil => rfl
  | cons hl _ ih => rw [countFrom_cons, countFrom_cons, hl, ih]

/-- Of lines with marks, those that bear some mark: the number of a counted line leads back to the
line it was read from. -/
theorem map_measured_filter_countFrom (strip : Line → Line) (p : Line → Bool) (first : Nat)
    (lines : List Line) :
    ((countFrom first unit drops (lines.map strip)).filter fun c =>
        lines[c.number.toNat - first]?.any p).map CountedLine.measured =
      ((lines.filter p).map strip).filterMap (CountedLine.measured? unit drops) := by
  induction lines generalizing first with
  | nil => rfl
  | cons l rest ih =>
      have hrest : ((countFrom (first + 1) unit drops (rest.map strip)).filter fun c =>
            (l :: rest)[c.number.toNat - first]?.any p) =
          (countFrom (first + 1) unit drops (rest.map strip)).filter fun c =>
            rest[c.number.toNat - (first + 1)]?.any p := by
        refine List.filter_congr fun c hc => ?_
        rw [getElem?_number_cons hc]
      rw [List.map_cons, countFrom_cons, List.filter_append, List.map_append, hrest, ih]
      cases hl : CountedLine.ofLine? unit drops (strip l) first with
      | none =>
          have hm : CountedLine.measured? unit drops (strip l) = none := by
            rw [← CountedLine.map_measured_ofLine? _ first, hl, Option.map_none]
          cases hp : p l <;> simp [hp, hm]
      | some c =>
          have hm : CountedLine.measured? unit drops (strip l) = some c.measured := by
            rw [← CountedLine.map_measured_ofLine? _ first, hl, Option.map_some]
          have hnumber : c.number.toNat - first = 0 := by
            rw [CountedLine.number_of_ofLine? hl]
            omega
          cases hp : p l <;> simp [hp, hm, hnumber]

/-! ## The text of some lines -/

/-- The empty text has one line where no lines have none, but an empty one, which is neither
measured nor counted. -/
theorem Indent.detect_linesOf_textOf {lines : List Line} (h : ∀ l ∈ lines, '\n' ∉ l) :
    detect (linesOf (textOf lines)) = detect lines := by
  cases lines with
  | nil =>
      rw [linesOf_textOf_nil]
      rfl
  | cons l rest => rw [linesOf_textOf (List.cons_ne_nil l rest) h]

theorem Listing.ofText_textOf (drops : Line → Bool) {lines : List Line}
    (h : ∀ l ∈ lines, '\n' ∉ l) : ofText drops (textOf lines) = ofLines drops lines := by
  cases lines with
  | nil =>
      rw [ofText, linesOf_textOf_nil]
      rfl
  | cons l rest => rw [ofText, linesOf_textOf (List.cons_ne_nil l rest) h]

end Nesting
