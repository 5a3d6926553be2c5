import Nesting.Text.Blank
import Nesting.Text.Width

/-!
# Fitting text into a width

A text that is wider than the room it has is broken between words: a word keeps the blanks behind
it, and starts a line of its own when it does not fit behind the words before it. There are two ways
for a word that is wider than a line: it stays whole, and the line loses its end to an ellipsis
(`fitInto`), or it is cut into pieces (`foldInto`).
-/

namespace Nesting

/-- The blanks a text starts with, the word behind them, and the blanks behind that; and what is
left. -/
def takeWord (s : List Char) : List Char × List Char :=
  let lead := s.takeWhile isBlank
  let afterLead := s.dropWhile isBlank
  let word := afterLead.takeWhile (!isBlank ·)
  let afterWord := afterLead.dropWhile (!isBlank ·)
  (lead ++ word ++ afterWord.takeWhile isBlank, afterWord.dropWhile isBlank)

/-- Cut a text into words with the blanks around them. The fuel bounds the number of words. -/
def wordsOf : (fuel : Nat) → List Char → List (List Char)
  | 0, s => [s]
  | fuel + 1, s =>
    match takeWord s with
    | (word, []) => [word]
    | (word, rest) => word :: wordsOf fuel rest

/-- Cut a text into pieces that fit into a width, as long as they can be. The last piece so far is
`line`. -/
def chop (width : Nat) (line : List Char) : List Char → List (List Char)
  | [] => [line]
  | c :: rest =>
    if textWidth line + charWidth c ≤ width then chop width (line ++ [c]) rest
    else line :: chop width [c] rest

/-- Set words into lines. A word joins the line before it if it fits without the blanks behind it,
and otherwise starts the next one. A word that fits into no line is cut. -/
def setWords (width : Nat) (cut : List Char → List (List Char)) (line : List Char) :
    List (List Char) → List (List Char)
  | [] => [line]
  | word :: rest =>
    if textWidth line + textWidth (Line.trimEnd word) ≤ width then
      setWords width cut (line ++ word) rest
    else
      let pieces := if width < textWidth (Line.trimEnd word) then cut word else [word]
      (if line = [] then [] else [line]) ++ pieces.dropLast
        ++ setWords width cut (pieces.getLastD []) rest

/-- A line without the blanks that its end has beyond a number of characters. -/
def dropExcessBlanks (size : Nat) (line : List Char) : List Char :=
  let blanks := (line.reverse.takeWhile isBlank).length
  line.take (line.length - min blanks (line.length - size))

/-- The start of a text that fits into a width. A wide character that is cut leaves a blank. -/
def takeColumns : (width : Nat) → List Char → List Char
  | _, [] => []
  | width, c :: rest =>
    if charWidth c ≤ width then c :: takeColumns (width - charWidth c) rest
    else List.replicate width ' '

/-- A line that ends in an ellipsis if it is wider than its room. -/
def withEllipsis (width : Nat) (line : List Char) : List Char :=
  if textWidth line ≤ width then line else takeColumns (width - 1) line ++ ['…']

/-- A text as lines that fit into a width. Words that do not fit stay whole. -/
def fitInto (width : Nat) (s : List Char) : List (List Char) :=
  if textWidth s ≤ width then [s]
  else
    (setWords width ([·]) [] (wordsOf s.length s)).map fun l =>
      withEllipsis width (dropExcessBlanks width l)

/-- A text as lines that fit into a width. Words that do not fit are cut. -/
def foldInto (width : Nat) (s : List Char) : List (List Char) :=
  if textWidth s ≤ width then [s]
  else
    (setWords width (chop width []) [] (wordsOf s.length s)).map fun l =>
      takeColumns width (dropExcessBlanks width l)

theorem fitInto_of_le {width : Nat} {s : List Char} (h : textWidth s ≤ width) :
    fitInto width s = [s] := by
  simp [fitInto, h]

end Nesting
