import Nesting.Report.Markup
import Nesting.Text.Lines
import Nesting.Text.Wrapping

/-!
# Terminals

A terminal has a width, and pictures for some codes. A text is shown on it without controls, and
each of its lines on as many lines as the width asks for.
-/

namespace Nesting

/-- A terminal. -/
structure Console where
  width : Nat
  pictures : Pictures

namespace Console

/-- The lines that a markup takes on a terminal. -/
def lines (c : Console) (markup : List Char) : List (List Char) :=
  (splitLines ((Markup.pictured c.pictures markup).filter fun c => !isHiddenControl c)).flatMap
    fun l => foldInto c.width (expandTabs 0 l)

/-- A markup as a terminal shows it. -/
def printed (c : Console) (markup : List Char) : String :=
  String.ofList ((c.lines markup).flatMap (· ++ ['\n']))

end Console

end Nesting
