import Nesting.Line

/-!
# Detecting the indentation step

How many spaces, or tabs, a text indents by is read off the *differences* between the leads of
lines that follow each other: a lead that differs from the one before counts as one use of a step
as wide as the difference, and a lead that repeats the one before counts as a repeat of the step
last used. The step with most uses wins, among those the one with most repeats, among those the
one seen first. A single space is mostly a continued block comment, so lines led by one are passed
over at first and only counted when the text has no other indentation.

`Tally` is the state of that count between two lines and `Tally.add` its step; `Indent.detect` is
the whole detection.
-/

namespace Nesting

/-- How often a step was used, and how often a line repeated it. -/
structure StepCount where
  step : Run
  uses : Nat
  repeats : Nat
  deriving DecidableEq, Repr

namespace StepCount

/-- One count comes before another when it has more uses, or as many uses and more repeats. -/
def beats (a b : StepCount) : Bool :=
  b.uses < a.uses || (a.uses == b.uses && b.repeats < a.repeats)

end StepCount

/-- Count uses and repeats of a step. A step not seen before is put at the end, as used once. -/
def countStep (uses repeats : Nat) (step : Run) : List StepCount → List StepCount
  | [] => [⟨step, 1, 0⟩]
  | e :: rest =>
    if e.step = step then
      { e with uses := e.uses + uses, repeats := e.repeats + repeats } :: rest
    else e :: countStep uses repeats step rest

/-- What the count keeps between two lines: the length of the last lead, its kind (none after an
unindented line), the step last used, and the counts in the order in which their steps were first
seen. The step outlives the lead: an unindented line forgets the lead but not the step. -/
structure Tally where
  length : Nat := 0
  kind : Option Margin := none
  step : Option Run := none
  counts : List StepCount := []
  deriving DecidableEq, Repr

namespace Tally

/-- Count a line led by `lead`. -/
def addLead (t : Tally) (lead : Run) : Tally :=
  let before := if t.kind = some lead.kind then t.length else 0
  let t' := { t with length := lead.length, kind := some lead.kind }
  if lead.length = before then
    { t' with counts := t.step.elim t.counts (countStep 0 1 · t.counts) }
  else
    let step : Run := ⟨lead.kind, (lead.length - before) + (before - lead.length)⟩
    { t' with step := some step, counts := countStep 1 0 step t.counts }

/-- Count a line. An empty line changes nothing, an unindented one forgets the last lead, and with
`skipSingles` a line led by a single space changes nothing. -/
def add (skipSingles : Bool) (t : Tally) (l : Line) : Tally :=
  if l = [] then t
  else match l.lead with
    | none => { t with length := 0, kind := none }
    | some lead => if skipSingles && lead == ⟨.space, 1⟩ then t else t.addLead lead

def ofLines (skipSingles : Bool) (lines : List Line) : Tally :=
  lines.foldl (add skipSingles) {}

/-- The first count that no other beats. -/
def mostUsed (counts : List StepCount) : Option StepCount :=
  counts.foldl (fun best e =>
    match best with
    | none => some e
    | some b => if e.beats b then some e else some b) none

end Tally

/-- The indentation of a text: how many characters of which kind make up one step. A text without
indentation has the amount zero and no kind. -/
structure Indent where
  amount : Int
  kind : Option Margin
  deriving DecidableEq, Repr

namespace Indent

def none : Indent := ⟨0, .none⟩

def ofRun (r : Run) : Indent := ⟨r.length, some r.kind⟩

/-- One step written out. -/
def text (i : Indent) : String :=
  match i.kind with
  | some k => String.ofList (List.replicate i.amount.toNat k.char)
  | .none => ""

/-- Columns for one level of depth: a tab is one level however many tabs the step has, spaces are
as many as the step has, and a text without indentation counts single columns. -/
def unit (i : Indent) : Int :=
  if i.kind = some .tab then 1 else if i.amount = 0 then 1 else i.amount

/-- The counts that decide: those without single spaces, unless there are none. -/
def deciding (lines : List Line) : List StepCount :=
  match (Tally.ofLines true lines).counts with
  | [] => (Tally.ofLines false lines).counts
  | counts => counts

def detect (lines : List Line) : Indent :=
  match Tally.mostUsed (deciding lines) with
  | some e => ofRun e.step
  | .none => none

end Indent

end Nesting
