/-!
# Blank characters

Which characters are blank, and text without the blanks at its ends. Only the two blanks of
`isMargin` indent a line; every other blank is content that `trim` takes away at the ends.
-/

namespace Nesting

/-- A line is its characters, without the line feed that ends it. -/
abbrev Line := List Char

/-- The blank characters: tab to carriage return, the four information separators, the space, the
next-line and no-break controls, and the spaces and separators of Unicode. Zero-width marks are not
blank. -/
def isBlank (c : Char) : Bool :=
  let n := c.toNat
  (0x09 ≤ n && n ≤ 0x0d) || (0x1c ≤ n && n ≤ 0x20) || n == 0x85 || n == 0xa0 || n == 0x1680
    || (0x2000 ≤ n && n ≤ 0x200a) || n == 0x2028 || n == 0x2029 || n == 0x202f || n == 0x205f
    || n == 0x3000

/-- The characters that indent a line. -/
def isMargin (c : Char) : Bool :=
  c == ' ' || c == '\t'

theorem isBlank_of_isMargin {c : Char} (h : isMargin c = true) : isBlank c = true := by
  simp only [isMargin, Bool.or_eq_true, beq_iff_eq] at h
  rcases h with rfl | rfl <;> decide

namespace Line

/-- The line without the blanks it starts with. -/
def trimStart (l : Line) : Line :=
  l.dropWhile isBlank

/-- The line without the blanks it ends with. -/
def trimEnd (l : Line) : Line :=
  (l.reverse.dropWhile isBlank).reverse

/-- The line without the blanks at either end. -/
def trim (l : Line) : Line :=
  trimEnd (trimStart l)

theorem trimStart_append {m : Line} (h : ∀ c ∈ m, isBlank c = true) (l : Line) :
    trimStart (m ++ l) = trimStart l :=
  List.dropWhile_append_of_pos h

theorem trim_append {m : Line} (h : ∀ c ∈ m, isBlank c = true) (l : Line) :
    trim (m ++ l) = trim l := by
  rw [trim, trimStart_append h, trim]

theorem trimEnd_concat {c : Char} (h : isBlank c = true) (l : Line) :
    trimEnd (l ++ [c]) = trimEnd l := by
  rw [trimEnd, List.reverse_concat, List.dropWhile_cons_of_pos h, trimEnd]

/-- A blank at the end of a line is taken away from the start only if nothing else is left. -/
theorem trimStart_concat {c : Char} (h : isBlank c = true) (l : Line) :
    trimStart (l ++ [c]) = if trimStart l = [] then [] else trimStart l ++ [c] := by
  have hone : [c].dropWhile isBlank = [] := List.dropWhile_cons_of_pos h
  rw [trimStart, trimStart, List.dropWhile_append, hone]
  cases l.dropWhile isBlank <;> rfl

theorem trim_concat {c : Char} (h : isBlank c = true) (l : Line) : trim (l ++ [c]) = trim l := by
  rw [trim, trimStart_concat h, trim]
  split
  · next hnil => rw [hnil]
  · exact trimEnd_concat h _

end Line

def trimText (s : String) : String :=
  String.ofList (Line.trim s.toList)

end Nesting
