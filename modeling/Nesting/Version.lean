/-!
# The program

Its name, its version, and the names of what it offers to others.
-/

namespace Nesting

def programName : String := "indent-complexity"

def version : String := "1.0.0"

/-- The names of what is offered, in the order in which they are listed. -/
def publicNames : List String :=
  ["analyze_complexity", "analyze_diff_complexity", "analyze", "analyze_verbose",
   "analyze_with_lines", "ComplexityLevel", "ComplexityResult", "VerboseComplexityResult",
   "LineComplexityResult", "LineDetail", "Thresholds", "DEFAULT_COMMENT_PATTERN",
   "DEFAULT_THRESHOLDS"]

end Nesting
