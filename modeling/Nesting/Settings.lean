import Nesting.Analysis

/-!
# Settings

What can be set for a run: the two thresholds, the level at which the run counts as failed, which
lines are comments and whether they are left out, which changes of a diff are analysed, and how much
is reported. `Settings.ofEntries` checks the values that are given by name, in a fixed order: the
names, the thresholds, the changes, the level, the pattern. The thresholds are not related to each
other, and what is only asked whether it counts as yes may be any value.
-/

namespace Nesting

inductive Setting where
  | medium
  | high
  | failOn
  | commentPattern
  | filterComments
  | changes
  | verbose
  | lines
  deriving DecidableEq, Repr

/-- What a setting that is given as a text is read as. -/
inductive SettingKind where
  | number
  | text
  | flag
  deriving DecidableEq, Repr

namespace Setting

def all : List Setting :=
  [medium, high, failOn, commentPattern, filterComments, changes, verbose, lines]

def name : Setting → String
  | medium => "medium_threshold"
  | high => "high_threshold"
  | failOn => "fail_on"
  | commentPattern => "comment_pattern"
  | filterComments => "filter_comments"
  | changes => "include"
  | verbose => "verbose"
  | lines => "include_lines"

def kind : Setting → SettingKind
  | medium | high => .number
  | failOn | commentPattern | changes => .text
  | filterComments | verbose | lines => .flag

def default : Setting → Value
  | medium => Thresholds.default.medium
  | high => Thresholds.default.high
  | failOn => .null
  | commentPattern => .text Comment.defaultPattern.source
  | filterComments => .bool true
  | changes => .text Include.additions.name
  | verbose | lines => .bool false

/-- The value of a setting, which is given by name or not. -/
def valueIn (s : Setting) (es : Entries) : Value :=
  (es.get? s.name).getD s.default

end Setting

structure Settings where
  medium : Number
  high : Number
  failOn : Option Level
  comments : Pattern
  filterComments : Value
  changes : Include
  verbose : Value
  lines : Value

/-- What settings need of the platform that they are read on: the names of characters, and how many
values can stand around another one that is written, for values of three kinds: thresholds of a
file, settings that should be numbers, and all settings as one table. -/
structure Platform where
  characters : CharacterNames := .plain
  fileRoom : Nat := Value.usualRoom
  numberRoom : Nat := Value.usualRoom
  tableRoom : Nat := Value.usualRoom

/-! ## Checking values -/

/-- The operation that makes settings, as messages name it. -/
def settingsOperation : String := "ComplexityConfig.__init__"

/-- A threshold has to be a number, and a truth value is none. -/
def numberSetting (s : Setting) (v : Value) (room : Nat := Value.usualRoom) : Outcome Number :=
  match v with
  | .int n => return .int n
  | .float x => return .float x
  | v => throw (.telling (v.writingFault? room) (.notNumber s.name v))

/-- The changes have to be one of the choices. -/
def changesSetting (v : Value) : Outcome Include :=
  let choice? := match v with
    | .text t => Include.ofName? t
    | _ => none
  match choice? with
  | some i => return i
  | none => throw (.notChoice Setting.changes.name Include.names)

/-- The level of failure is nothing or a level. -/
def failOnSetting : Value → Outcome (Option Level)
  | .null => return none
  | .text t =>
    match Level.ofName? t with
    | some l => return some l
    | none => throw (.notChoice Setting.failOn.name Level.names)
  | _ => throw (.notChoice Setting.failOn.name Level.names)

/-- The comment pattern has to be a text that can be read as a pattern. -/
def patternSetting (v : Value) (characters : CharacterNames := .plain) : Outcome Pattern :=
  match v with
  | .text source =>
    match Pattern.compile source characters with
    | .ok p => return p
    | .error f =>
      throw (match f.cause.rank with
        | .pattern => .badPatternSetting Setting.commentPattern.name source f
        | .value | .size => .badPattern source f)
  | .list _ => throw (.patternNotKept (Value.list []).kindName)
  | .table _ => throw (.patternNotKept (Value.table []).kindName)
  | _ => throw .patternNotText

/-- Refuse the first name that is no setting. -/
def checkSettingNames (names : List String) : Outcome Unit :=
  match names.find? fun n => !(Setting.all.map Setting.name).contains n with
  | none => return
  | some n =>
    throw (if n = "self" then .repeatedOption settingsOperation n
      else .unknownOption settingsOperation n)

namespace Settings

/-- The settings that are given by name; the others have their default. -/
def ofEntries (es : Entries) (platform : Platform := {}) : Outcome Settings := do
  checkSettingNames es.names
  let medium ← numberSetting .medium (Setting.medium.valueIn es) platform.numberRoom
  let high ← numberSetting .high (Setting.high.valueIn es) platform.numberRoom
  let changes ← changesSetting (Setting.changes.valueIn es)
  let failOn ← failOnSetting (Setting.failOn.valueIn es)
  let comments ← patternSetting (Setting.commentPattern.valueIn es) platform.characters
  return {
    medium, high, failOn, comments, changes
    filterComments := Setting.filterComments.valueIn es
    verbose := Setting.verbose.valueIn es
    lines := Setting.lines.valueIn es }

/-! ## Using settings -/

def numberValue : Number → Value
  | .int n => .int n
  | .float x => .float x

/-- The value of a setting as it was given. -/
def value (s : Settings) : Setting → Value
  | .medium => numberValue s.medium
  | .high => numberValue s.high
  | .failOn => s.failOn.elim .null fun l => .text l.name
  | .commentPattern => .text s.comments.source
  | .filterComments => s.filterComments
  | .changes => .text s.changes.name
  | .verbose => s.verbose
  | .lines => s.lines

def thresholds (s : Settings) : Thresholds :=
  ⟨numberValue s.medium, numberValue s.high⟩

/-- The pattern of the comments that are left out. -/
def pattern? (s : Settings) : Option Pattern :=
  if s.filterComments.isTrue then some s.comments else none

/-- Whether the pattern in use is the one for when none is given. -/
def usesDefaultPattern (s : Settings) : Bool :=
  s.filterComments.isTrue && s.comments.source == Comment.defaultPattern.source

def tier (s : Settings) : Tier :=
  .of s.verbose.isTrue s.lines.isTrue

/-- The options of an analysis with these settings. -/
def options (s : Settings) : AnalysisOptions :=
  ⟨s.pattern?, .given s.thresholds, s.tier⟩

/-- Whether a level reaches the level of failure. -/
def fails (s : Settings) (level : Level) : Bool :=
  s.failOn.any fun bound => bound.rank ≤ level.rank

/-- Whether the level with a name reaches the level of failure. Without such a level the name is
not looked at. -/
def failsNamed (s : Settings) (name : Value) : Outcome Bool :=
  let level? := match name with
    | .text t => Level.ofName? t
    | _ => none
  match s.failOn, level? with
  | none, _ => return false
  | some _, some l => return s.fails l
  | some _, none => throw .unknownLevel

end Settings

end Nesting
