import Nesting.Pattern.Basic

/-!
# Comment lines

A comment line is one in which a pattern occurs. The pattern that is used when none is given looks
for the markers with which common languages start a comment, behind the blanks that a line starts
with. It is a rule of thumb: code that starts with a marker is taken for a comment.
-/

namespace Nesting

namespace Tree

/-- The tree that matches one text. -/
def literal (s : List Char) : Tree :=
  Reading.seqOf (s.map fun c => .one (.code c.toNat))

/-- The tree that matches one of several texts, tried in order. -/
def oneOf : List (List Char) → Tree
  | [] => .empty
  | [s] => literal s
  | s :: rest => .alt (literal s) (oneOf rest)

end Tree

namespace Comment

/-- What a comment starts with: line comments and block comments of the C family, the line before
the last of a block, comments of scripts, of markup, and of query languages. -/
def markers : List (List Char) :=
  [['/', '/'], ['/', '*'], ['*'], ['#'], ['<', '!', '-', '-'], ['-', '-']]

/-- A marker, behind blanks at the start of a line. -/
def defaultPattern : Pattern where
  source := "^\\s*(//|/\\*|\\*|#|<!--|--)"
  flags := {}
  tree :=
    Reading.seqOf
      [.anchor .lineStart, .loop .greedy 0 none (.one (.items false [.category .blank false])),
        .capture 1 (Tree.oneOf markers)]

/-- Whether a line is dropped as a comment. Without a pattern, no line is. -/
def drops (pattern? : Option Pattern) (l : Line) : Bool :=
  pattern?.any (·.occursIn l)

end Comment

end Nesting
