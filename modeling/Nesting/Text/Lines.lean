import Nesting.Text.Blank

/-!
# Lines of a text

A text is cut at every line feed and nowhere else, so a text of `n` line feeds has `n + 1` lines,
the last of them empty when the text ends with a line feed. `joinLines` puts the line feeds back.
-/

namespace Nesting

/-- Cut a text at its line feeds. -/
def splitLines (text : List Char) : List Line :=
  text.foldr (fun c lines =>
    if c = '\n' then [] :: lines
    else match lines with
      | [] => [[c]]
      | l :: rest => (c :: l) :: rest) [[]]

/-- Lines as one text, a line feed between each two. -/
def joinLines (lines : List Line) : List Char :=
  ['\n'].intercalate lines

def linesOf (text : String) : List Line :=
  splitLines text.toList

def textOf (lines : List Line) : String :=
  String.ofList (joinLines lines)

/-! ## Cutting -/

@[simp] theorem splitLines_nil : splitLines [] = [[]] := rfl

theorem splitLines_ne_nil (text : List Char) : splitLines text ≠ [] := by
  cases text with
  | nil => simp
  | cons c rest =>
    simp only [splitLines, List.foldr_cons]
    split
    · simp
    · split <;> simp

@[simp] theorem splitLines_newline (rest : List Char) :
    splitLines ('\n' :: rest) = [] :: splitLines rest := by
  simp [splitLines]

theorem splitLines_cons {c : Char} (h : c ≠ '\n') (rest : List Char) :
    splitLines (c :: rest) = (splitLines rest).modifyHead (c :: ·) := by
  have hne := splitLines_ne_nil rest
  simp only [splitLines, List.foldr_cons, h, if_false] at hne ⊢
  split
  · contradiction
  · next heq => simp [heq]

theorem splitLines_of_not_mem {l : Line} (h : '\n' ∉ l) : splitLines l = [l] := by
  induction l with
  | nil => rfl
  | cons c rest ih =>
      obtain ⟨hc, hrest⟩ := not_or.mp (mt List.mem_cons.mpr h)
      rw [splitLines_cons (Ne.symm hc), ih hrest]
      rfl

/-- A line feed anywhere cuts a text into the lines before it and the lines behind it. -/
theorem splitLines_append (text rest : List Char) :
    splitLines (text ++ '\n' :: rest) = splitLines text ++ splitLines rest := by
  induction text with
  | nil => exact splitLines_newline rest
  | cons c text ih =>
      by_cases hc : c = '\n'
      · subst hc
        rw [List.cons_append, splitLines_newline, splitLines_newline, ih]
        rfl
      · rw [List.cons_append, splitLines_cons hc, splitLines_cons hc, ih]
        cases htext : splitLines text with
        | nil => exact absurd htext (splitLines_ne_nil text)
        | cons l lines => rfl

/-- The text up to the first line feed is the first line. -/
theorem splitLines_append_newline {l : Line} (h : '\n' ∉ l) (rest : List Char) :
    splitLines (l ++ '\n' :: rest) = l :: splitLines rest := by
  rw [splitLines_append, splitLines_of_not_mem h]
  rfl

theorem newline_not_mem_splitLines {text : List Char} :
    ∀ l ∈ splitLines text, '\n' ∉ l := by
  induction text with
  | nil => simp
  | cons c rest ih =>
      by_cases hc : c = '\n'
      · subst hc
        rw [splitLines_newline]
        exact List.forall_mem_cons.mpr ⟨List.not_mem_nil, ih⟩
      · rw [splitLines_cons hc]
        cases hs : splitLines rest with
        | nil => exact absurd hs (splitLines_ne_nil rest)
        | cons l ls =>
            rw [hs] at ih
            obtain ⟨hl, hls⟩ := List.forall_mem_cons.mp ih
            refine List.forall_mem_cons.mpr ⟨fun hm => ?_, hls⟩
            rcases List.mem_cons.mp hm with heq | hm
            · exact hc heq.symm
            · exact hl hm

/-! ## Cutting what was joined -/

@[simp] theorem joinLines_nil : joinLines [] = [] := rfl

@[simp] theorem joinLines_singleton (l : Line) : joinLines [l] = l := by
  simp [joinLines, List.intercalate]

theorem joinLines_cons_cons (l l' : Line) (rest : List Line) :
    joinLines (l :: l' :: rest) = l ++ '\n' :: joinLines (l' :: rest) := by
  simp [joinLines, List.intercalate]

theorem splitLines_joinLines {lines : List Line} (hne : lines ≠ [])
    (h : ∀ l ∈ lines, '\n' ∉ l) : splitLines (joinLines lines) = lines := by
  induction lines with
  | nil => exact absurd rfl hne
  | cons l rest ih =>
      obtain ⟨hl, hrest⟩ := List.forall_mem_cons.mp h
      cases rest with
      | nil => rw [joinLines_singleton, splitLines_of_not_mem hl]
      | cons l' rest =>
          rw [joinLines_cons_cons, splitLines_append_newline hl, ih (List.cons_ne_nil _ _) hrest]

theorem linesOf_textOf {lines : List Line} (hne : lines ≠ []) (h : ∀ l ∈ lines, '\n' ∉ l) :
    linesOf (textOf lines) = lines := by
  rw [linesOf, textOf, String.toList_ofList, splitLines_joinLines hne h]

/-- No lines at all make the empty text, which has one line. -/
theorem linesOf_textOf_nil : linesOf (textOf []) = [[]] := by
  rw [linesOf, textOf, String.toList_ofList, joinLines_nil, splitLines_nil]

theorem linesOf_append (text rest : String) :
    linesOf (text ++ "\n" ++ rest) = linesOf text ++ linesOf rest := by
  rw [linesOf, String.toList_append, String.toList_append, List.append_assoc]
  exact splitLines_append text.toList rest.toList

theorem newline_not_mem_linesOf (text : String) : ∀ l ∈ linesOf text, '\n' ∉ l :=
  newline_not_mem_splitLines

end Nesting
