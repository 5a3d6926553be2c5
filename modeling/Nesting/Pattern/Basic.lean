import Nesting.Pattern.Matching
import Nesting.Pattern.Reading
import Nesting.Text.Quoted

/-!
# Patterns

A pattern is read once and matched against any number of lines. It matches a line when it matches
somewhere in it.
-/

namespace Nesting

structure Pattern where
  /-- The text the pattern was read from. -/
  source : String
  flags : Flags
  tree : Tree
  deriving DecidableEq, Repr

namespace Pattern

/-- Read a pattern, in which characters can be written by the names that they have. -/
def compile (source : String) (characters : CharacterNames := .plain) :
    Except PatternFault Pattern := do
  let (tree, flags) ← readPattern characters source.toList
  return ⟨source, flags, tree⟩

/-- The names of the flags of a pattern. -/
def flagNames (p : Pattern) : List String :=
  [("re.TEMPLATE", p.flags.template), ("re.IGNORECASE", p.flags.ignoreCase),
    ("re.MULTILINE", p.flags.multiline), ("re.DOTALL", p.flags.dotAll),
    ("re.VERBOSE", p.flags.verbose), ("re.ASCII", p.flags.ascii)].filterMap fun (name, isOn) =>
      if isOn then some name else none

/-- The most characters of its source that a pattern is told with. -/
def maxQuoted : Nat := 200

/-- A pattern as source text. -/
def quoted (p : Pattern) : String :=
  "re.compile(" ++ String.ofList ((Nesting.quoted p.source).toList.take maxQuoted)
    ++ (if p.flagNames = [] then "" else ", " ++ "|".intercalate p.flagNames) ++ ")"

/-- Whether a pattern matches somewhere in a line. -/
def occursIn (p : Pattern) (l : Line) : Bool :=
  p.tree.matchFrom p.flags [] l

end Pattern

end Nesting
