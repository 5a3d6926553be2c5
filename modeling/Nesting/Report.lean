import Nesting.Level
import Nesting.Moments

/-!
# Reports

The result of an analysis comes in three tiers, each with all that is in the one before: the score
and its grade; all measures; and the lines themselves. `Report.build` makes the report of a listing.
-/

namespace Nesting

/-- How much a report tells. -/
inductive Tier where
  | brief
  | full
  | listed
  deriving DecidableEq, Repr

namespace Tier

/-- The tier for two wishes: asking for the lines is asking for the measures too. -/
def of (verbose lines : Bool) : Tier :=
  if lines then listed else if verbose then full else brief

end Tier

structure Grade where
  score : Float
  level : Level
  reason : String

inductive Report where
  | brief (grade : Grade)
  | full (grade : Grade) (measures : Measures)
  | listed (grade : Grade) (measures : Measures) (lines : List CountedLine)

namespace Report

def grade : Report → Grade
  | brief g | full g _ | listed g _ _ => g

def measures? : Report → Option Measures
  | brief _ => none
  | full _ m | listed _ m _ => some m

def lines? : Report → Option (List CountedLine)
  | brief _ | full .. => none
  | listed _ _ ls => some ls

def level (r : Report) : Level := r.grade.level

end Report

/-- What thresholds are asked for. -/
inductive ThresholdChoice where
  | standard
  | given (t : Thresholds)
  | entries (es : Entries)
  /-- Something of another kind. -/
  | other (kind : String)

namespace ThresholdChoice

/-- The choice that a value is. -/
def ofValue : Value → ThresholdChoice
  | .null => standard
  | .table es => entries es
  | v => other v.kindName

def resolve : ThresholdChoice → Outcome Thresholds
  | standard => return .default
  | given t => return t
  | entries es => Thresholds.ofEntries es
  | other kind => throw (.notIterable kind)

end ThresholdChoice

/-- Measure depths, which have to be such that can be stored. -/
def measure (depths : List Int) : Outcome Measures :=
  if depths.all isStorable then return .ofDepths depths else throw .depthTooLarge

namespace Report

/-- The report of the lines that count. The lines are measured before the thresholds are looked
at. -/
def build (lines : List CountedLine) (tier : Tier) (thresholds : ThresholdChoice) :
    Outcome Report := do
  let m ← measure (lines.map (·.depth))
  let a ← assess (.float m.score) (← thresholds.resolve)
  let g : Grade := ⟨m.score, a.level, a.reason⟩
  return match tier with
    | .brief => brief g
    | .full => full g m
    | .listed => listed g m lines

end Report

end Nesting
