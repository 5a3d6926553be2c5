import Nesting.Decimal.Reading
import Nesting.Settings
import Nesting.Text.Utf8
import Nesting.Toml.Document

/-!
# Where settings come from

Settings are given in layers: by a file of the user, by a file of the project, by a file that is
named, by the environment, and by the call. A setting has the value of the last layer that gives
one, and the values are checked when all layers are merged, so that a value which can not be is
no fault when a later layer gives another one. `SettingsSources.merged` is the merge,
`SettingsSources.load` the settings that come of it.
-/

namespace Nesting

/-! ## Files -/

/-- A file that settings can be in, and what was found there: by looking for it, and by opening
it. -/
structure SettingsFile where
  /-- What the file is called in messages. -/
  label : String
  path : Path
  status : Except AccessFault Unit
  content : Except AccessFault (List UInt8)

/-- The table in which a file can give the thresholds by their level. -/
def thresholdsName : String := "thresholds"

/-- Give the thresholds of a table under their own names. -/
def putThresholds (room : Nat) : (thresholds : Entries) → (es : Entries) → Outcome Entries
  | [], es => return es
  | (name, v) :: rest, es =>
    match [Level.medium, Level.high].find? (·.name == name) with
    | some l => putThresholds room rest (es.put (l.name ++ "_threshold") v)
    | none => throw (.invalidSetting (thresholdsName ++ "." ++ name) v "unknown threshold" room)

/-- The entries of a file, with the table of thresholds taken apart. -/
def flattenThresholds (room : Nat) (path : Path) (es : Entries) : Outcome Entries :=
  match es.get? thresholdsName with
  | none => return es
  | some (.table thresholds) => putThresholds room thresholds (es.erase thresholdsName)
  | some v => throw (.invalidSetting thresholdsName v ("expected a table in " ++ path.text) room)

namespace SettingsFile

/-- Look for a file: whether there is one. It ends in an error if that can not be known. -/
def lookUp (f : SettingsFile) : Outcome Bool :=
  match f.status with
  | .ok () => return true
  | .error fault => if fault.isAbsence then return false else throw (.unopened fault f.path)

/-- What stands in a file, or why it can not be read. -/
def document (f : SettingsFile) : Except String Entries := do
  let bytes ← f.content.mapError (·.message f.path)
  let text ← (decodeStrict bytes).mapError OctetFault.message
  (parseToml text).mapError (TomlFault.message (tomlCharacters text))

def entries (f : SettingsFile) (room : Nat) : Outcome Entries := do
  match f.document with
  | .ok es => flattenThresholds room f.path es
  | .error message =>
    throw (.fault (.configuration
      ("Invalid " ++ f.label ++ " '" ++ f.path.text ++ "': " ++ message)))

/-- The settings of a file that need not be there. -/
def entriesIfAny (f : SettingsFile) (room : Nat) : Outcome Entries := do
  if ← f.lookUp then f.entries room else return []

/-- The settings of a file that has to be there. -/
def entriesOfNamed (f : SettingsFile) (room : Nat) : Outcome Entries := do
  if ← f.lookUp then f.entries room
  else throw (.fault (.configuration ("Config file not found: " ++ f.path.text)))

end SettingsFile

/-! ## The environment -/

/-- The name of the variable that a setting can be given by. -/
def Setting.variableName (s : Setting) : String :=
  "INDENT_COMPLEXITY_" ++ s.name.map Char.toUpper

/-- The words for yes and no. Their letters are the lower case of plain letters only. -/
def flagWords : List (String × Bool) :=
  [("true", true), ("1", true), ("yes", true), ("on", true),
   ("false", false), ("0", false), ("no", false), ("off", false)]

/-- Read the text of a setting, or say what is wrong with it. -/
def SettingKind.read (raw : String) : SettingKind → Except String Value
  | text => .ok (.text raw)
  | number =>
    match readFloat? raw with
    | some x => .ok (.float x)
    | none => .error ("could not convert string to float: " ++ quoted raw)
  | flag =>
    match flagWords.find? (·.1 == raw.map Char.toLower) with
    | some (_, b) => .ok (.bool b)
    | none => .error ("expected true/false, got '" ++ raw ++ "'")

/-- What an environment gives for a setting. -/
def Setting.ofEnvironment (environment : String → Option String) (s : Setting) :
    Outcome Entries :=
  match environment s.variableName with
  | none => return []
  | some raw =>
    match s.kind.read raw with
    | .ok v => return [(s.name, v)]
    | .error reason => throw (.invalidSetting s.variableName (.text raw) reason)

/-- All settings that an environment gives. -/
def environmentEntries (environment : String → Option String) : Outcome Entries := do
  return (← Setting.all.mapM (·.ofEnvironment environment)).flatten

/-! ## The layers -/

/-- Everything that settings can come from. -/
structure SettingsSources where
  global : SettingsFile
  project : SettingsFile
  named : Option SettingsFile
  environment : String → Option String
  overrides : Entries
  platform : Platform := {}

/-- How an error in merged settings is told to whoever gave them. -/
def Error.ofMerged (merged : Entries) (room : Nat) (e : Error) : Error :=
  match e with
  | .unknownOption .. | .repeatedOption .. | .patternNotText | .patternNotKept _ =>
    .fault (.configuration ("Invalid configuration: " ++ e.message))
  | .notNumber .. | .notChoice .. | .badPatternSetting .. | .tooManyDigits =>
    .invalidSetting "config" (.table merged) e.message room
  | .badPattern _ f =>
    match f.cause.rank with
    | .pattern | .value => .invalidSetting "config" (.table merged) e.message room
    | .size => e
  | e => e

namespace SettingsSources

/-- The layers from the first to the last. Nothing as a value of a call is no value. -/
def layers (s : SettingsSources) : Outcome (List Entries) := do
  let room := s.platform.fileRoom
  let global ← s.global.entriesIfAny room
  let project ← s.project.entriesIfAny room
  let named ← match s.named with
    | none => pure []
    | some f => f.entriesOfNamed room
  let environment ← environmentEntries s.environment
  return [global, project, named, environment, s.overrides.filter fun e => !e.2.isNull]

/-- The values that are given, each by the last layer that gives it. -/
def merged (s : SettingsSources) : Outcome Entries := do
  return (← s.layers).foldl Entries.putAll []

/-- The settings that the layers give together. -/
def load (s : SettingsSources) : Outcome Settings := do
  let es ← s.merged
  match Settings.ofEntries es s.platform with
  | .ok settings => return settings
  | .error e => throw (e.ofMerged es s.platform.tableRoom)

/-- Refuse an override of the file that is named, which is no setting. -/
def checkOverrides (s : SettingsSources) : Outcome Unit :=
  if s.overrides.names.contains "config_file" then
    throw (.repeatedOption "load_config" "config_file")
  else return

end SettingsSources

end Nesting
