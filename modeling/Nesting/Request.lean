import Nesting.Analysis

/-!
# Requests

An analysis can be asked for with options by name. What is given for an option may be of any kind: a
plain value, a pattern that has been read before, or a pair of thresholds. A request is such a call:
it says which operation is called, on what text, with what options. The options are checked in the
order in which they matter: an option that the operation does not have, the choice of changes, the
comment pattern, and last, when the text has been measured, the thresholds.
-/

namespace Nesting

/-- What is given for an option. -/
inductive Argument where
  | value (v : Value)
  | pattern (p : Pattern)
  | thresholds (t : Thresholds)

/-- Options with what is given for them. -/
abbrev Arguments := Named Argument

namespace Argument

/-- The word that messages use for a kind of argument. -/
def kindName : Argument → String
  | value v => v.kindName
  | pattern _ => "Pattern"
  | thresholds _ => "Thresholds"

/-- Whether an argument counts as yes. -/
def isTrue : Argument → Bool
  | value v => v.isTrue
  | pattern _ | thresholds _ => true

/-- What keeps an argument from being written, if anything does. -/
def writingFault? : Argument → Option Value.WritingFault
  | value v => v.writingFault? Value.usualRoom
  | pattern _ => none
  | thresholds t => (Value.list [t.medium, t.high]).writingFault? Value.usualRoom

/-- An argument as source text. -/
def quoted : Argument → String
  | value v => v.quoted
  | pattern p => p.quoted
  | thresholds t => "Thresholds(medium=" ++ t.medium.quoted ++ ", high=" ++ t.high.quoted ++ ")"

/-- An argument as people read it. -/
def display : Argument → String
  | value v => v.display
  | a => a.quoted

end Argument

namespace Arguments

/-- Options that are all given as plain values. -/
def ofEntries (es : Entries) : Arguments :=
  es.map fun e => (e.1, .value e.2)

/-- Whether an option is given and counts as yes. -/
def isOn (es : Arguments) (name : String) : Bool :=
  (es.get? name).any (·.isTrue)

end Arguments

/-! ## Options -/

/-- The pattern that an option asks for. A pattern that has been read is taken as it is. -/
def commentOption (a : Argument) (characters : CharacterNames := .plain) :
    Outcome (Option Pattern) :=
  match a with
  | .value .null => return none
  | .value (.text source) =>
    match Pattern.compile source characters with
    | .ok p => return some p
    | .error f => throw (.badPattern source f)
  | .pattern p => return some p
  | a => throw (.noPattern a.kindName)

/-- The pattern that an option by some name asks for, or the default if it is not given. -/
def commentsIn (name : String) (es : Arguments) (characters : CharacterNames := .plain) :
    Outcome (Option Pattern) :=
  (es.get? name).elim (return some Comment.defaultPattern) (commentOption · characters)

/-- The changes that an option asks for. -/
def includeOption (a : Argument) : Outcome Include :=
  let choice? := match a with
    | .value (.text s) => Include.ofName? s
    | _ => none
  match choice? with
  | some i => return i
  | none =>
    throw (.telling a.writingFault?
      (.fault (.invalid "include" a.quoted a.display ("expected one of " ++ Include.names))))

/-- The changes that are asked for, or the additions if that is not said. -/
def changesIn (es : Arguments) : Outcome Include :=
  (es.get? "include").elim (return .additions) includeOption

/-- The thresholds that an argument asks for. -/
def ThresholdChoice.ofArgument : Argument → ThresholdChoice
  | .value v => ofValue v
  | .thresholds t => given t
  | .pattern _ => other "re.Pattern"

/-- The thresholds that are asked for, or the usual ones if that is not said. -/
def thresholdsIn (es : Arguments) : ThresholdChoice :=
  (es.get? "thresholds").elim .standard ThresholdChoice.ofArgument

/-! ## Listings -/

/-- How deep a line is, with a unit that may be none. -/
def lineDepth (unit : Int) (line : String) : Outcome Int :=
  if unit = 0 then throw .zeroUnit else return Line.depth unit line.toList

def listText (text : String) (es : Arguments) (characters : CharacterNames := .plain) :
    Outcome Listing := do
  return Listing.ofText (Comment.drops (← commentsIn "comment_pattern" es characters)) text

def listDiff (diff : String) (es : Arguments) (characters : CharacterNames := .plain) :
    Outcome Listing := do
  let which ← changesIn es
  return Listing.ofDiff which (Comment.drops (← commentsIn "comment_pattern" es characters)) diff

/-! ## Operations -/

/-- The operations by which an analysis is asked for. The last three ask for a text or a diff, by
an option, and for a tier of their own. -/
inductive Operation where
  | text
  | diff
  | brief
  | full
  | listed
  deriving DecidableEq, Repr

namespace Operation

def name : Operation → String
  | text => "analyze_complexity"
  | diff => "analyze_diff_complexity"
  | brief => "analyze"
  | full => "analyze_verbose"
  | listed => "analyze_with_lines"

/-- The operation with a name. -/
def ofName? (s : String) : Option Operation :=
  [text, diff, brief, full, listed].find? (·.name == s)

def tier? : Operation → Option Tier
  | text | diff => none
  | brief => some .brief
  | full => some .full
  | listed => some .listed

/-- The name of the text that an operation is about. -/
def subject : Operation → String
  | text => "content"
  | diff => "diff"
  | brief | full | listed => "text"

/-- The names of the options that every analysis has. -/
def commonOptions : List String :=
  ["comment_pattern", "thresholds", "verbose", "include_lines"]

/-- The names of the options of an operation, if it does not take others as well. -/
def options? : Operation → Option (List String)
  | text => some commonOptions
  | diff => some ("include" :: commonOptions)
  | brief | full | listed => none

/-- Refuse the first option that an operation does not have. -/
def checkNames (op : Operation) (names : List String) : Outcome Unit :=
  let refused? := names.find? fun n =>
    n == op.subject || op.options?.any fun known => !known.contains n
  match refused? with
  | none => return
  | some n => throw (if n = op.subject then .repeatedOption op.name n else .unknownOption op.name n)

end Operation

/-- Analyse a text, or a diff, with options by name. -/
def runPlain (isDiff : Bool) (text : String) (tier? : Option Tier) (es : Arguments)
    (characters : CharacterNames := .plain) : Outcome Analysis := do
  let tier := tier?.getD (Tier.of (es.isOn "verbose") (es.isOn "include_lines"))
  let which? ← if isDiff then some <$> changesIn es else pure none
  let comments ← commentsIn "comment_pattern" es characters
  let o : AnalysisOptions := ⟨comments, thresholdsIn es, tier⟩
  match which? with
  | some which => analyzeDiff which text o
  | none => analyzeText text o

def Operation.run (op : Operation) (text : String) (options : Arguments)
    (characters : CharacterNames := .plain) : Outcome Analysis := do
  op.checkNames options.names
  match op with
  | .text => runPlain false text none options characters
  | .diff => runPlain true text none options characters
  | .brief | .full | .listed =>
    let isDiff := options.isOn "diff"
    let options := options.erase "diff"
    (if isDiff then Operation.diff else Operation.text).checkNames options.names
    runPlain isDiff text op.tier? options characters

end Nesting
