import Nesting.Diff
import Nesting.Error
import Nesting.Number

/-!
# Levels

A score is graded by two thresholds. The higher level is tried first, and a threshold that is
reached exactly counts as reached, so a medium threshold above the high one is never the one that
decides. `Level.grade` is the rule over exact values, `assess` reads the thresholds from values of
any kind and puts the reason in words.
-/

namespace Nesting

inductive Level where
  | low
  | medium
  | high
  deriving DecidableEq, Repr

namespace Level

def all : List Level := [low, medium, high]

def name : Level → String
  | low => "low"
  | medium => "medium"
  | high => "high"

/-- The rank of a level among all levels. -/
def rank : Level → Nat
  | low => 0
  | medium => 1
  | high => 2

def ofName? (s : String) : Option Level :=
  all.find? (·.name == s)

def names : String :=
  ", ".intercalate (all.map name)

/-- The grade of a score. -/
def grade (score medium high : Extended) : Level :=
  if high.le score then .high else if medium.le score then .medium else .low

end Level

/-- The two thresholds, as they are given. -/
structure Thresholds where
  medium : Value
  high : Value

namespace Thresholds

/-- The thresholds that are used when none are given. -/
def default : Thresholds := ⟨.float 4.0, .float 10.0⟩

/-- The thresholds for a table that may give either of them. Nothing as a value is as good as no
value, and no other name may be in the table. -/
def ofEntries (es : Entries) : Outcome Thresholds :=
  let unknown := es.names.filter fun n => n != "medium" && n != "high"
  if unknown ≠ [] then
    throw (.invalidSetting "thresholds" (.table es)
      ("unknown keys: " ++ ", ".intercalate (unknown.mergeSort fun a b => decide (a ≤ b))))
  else
    let given (name : String) (v : Value) : Value :=
      match es.get? name with
      | some .null | none => v
      | some w => w
    return ⟨given "medium" default.medium, given "high" default.high⟩

end Thresholds

/-! ## Reasons -/

/-- A score with one decimal, a half rounded away from zero. Scores of more than 28 digits are not
written. -/
def scoreText? (score : Number) : Option String :=
  score.magnitude?.bind fun (negative, num, den) =>
    if Nat.pow 10 28 ≤ roundDiv .awayFromZero (10 * num) den then none
    else
      some (String.ofList (signText negative ++ fixedDigits .awayFromZero 1 num den))

/-- A threshold as it stands in a reason: a whole number without a point. -/
def thresholdText : Number → Outcome String
  | .int n => if Binary64.tooLarge n then throw .thresholdTooLarge else return intText n
  | .float x =>
    match Binary64.ofFloat x with
    | .finite negative m e =>
      let (num, den) := Binary64.quotient m e
      if num % den = 0 then
        let n := Int.ofNat (num / den)
        return intText (if negative then -n else n)
      else return plainText x
    | _ => return plainText x

/-- A grade and why it was given. -/
structure Assessment where
  level : Level
  reason : String
  deriving DecidableEq, Repr

/-- The reason for a level whose threshold was reached. -/
def reasonFor (level : Level) (score threshold : Number) : Outcome String := do
  match scoreText? score with
  | none => throw .scoreTooLong
  | some s =>
    return "Score " ++ s ++ " exceeds " ++ level.name ++ " threshold (" ++
      (← thresholdText threshold) ++ ")"

/-- The number a score or a threshold is, or the error of comparing a score with it. -/
def compared (score threshold : Value) : Outcome (Number × Number) :=
  match score.number?, threshold.number? with
  | some s, some t => return (s, t)
  | _, _ => throw (.incomparable score.kindName threshold.kindName)

/-- Grade a score. A threshold that is not needed is not looked at. -/
def assess (score : Value) (t : Thresholds) : Outcome Assessment := do
  let (s, high) ← compared score t.high
  if s.reaches high then return ⟨.high, ← reasonFor .high s high⟩
  let (s, medium) ← compared score t.medium
  if s.reaches medium then return ⟨.medium, ← reasonFor .medium s medium⟩
  return ⟨.low, "Score indicates simple, low-nesting code"⟩

end Nesting
