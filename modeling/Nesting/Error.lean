import Nesting.Access
import Nesting.Fault
import Nesting.Pattern.Fault

/-!
# Errors

All that can end a computation without an answer. `fault` is what callers expect and handle; the
others come from values of a kind or size that was not expected, and their messages are the ones
that whoever passed the value is told.
-/

namespace Nesting

inductive Error where
  /-- A fault of the settings, of a file, or of a diff. -/
  | fault (f : Fault)
  /-- A pattern can not be read. -/
  | badPattern (pattern : String) (f : PatternFault)
  /-- A comment pattern is neither a text nor nothing. -/
  | noPattern (kind : String)
  /-- A value that should be a pattern is no text. -/
  | patternNotText
  /-- A value that should be a pattern is a list or a table. -/
  | patternNotKept (kind : String)
  /-- Two values have no order between them. -/
  | incomparable (left right : String)
  /-- A value that should be a table has no entries. -/
  | notIterable (kind : String)
  /-- An operation has no option of that name. -/
  | unknownOption (operation name : String)
  /-- An option was given twice. -/
  | repeatedOption (operation name : String)
  /-- A level is none of those that are known. -/
  | unknownLevel
  /-- A setting is no number. -/
  | notNumber (setting : String) (value : Value)
  /-- A setting is none of its choices. -/
  | notChoice (setting choices : String)
  /-- A pattern among the settings can not be read. -/
  | badPatternSetting (setting pattern : String) (f : PatternFault)
  /-- Depths in units of no columns. -/
  | zeroUnit
  /-- A depth does not fit into 64 bits. -/
  | depthTooLarge
  /-- A threshold is too large for a double. -/
  | thresholdTooLarge
  /-- A score has too many digits to be written. -/
  | scoreTooLong
  /-- A whole number has too many digits to be written. -/
  | tooManyDigits
  /-- A value stands within too many others to be written. -/
  | tooNested
  /-- A file can not be opened, or not even be looked for. -/
  | unopened (f : AccessFault) (path : Path)
  /-- A stream gives no text. -/
  | unreadStream (f : StreamFault)

namespace Error

/-- What the reader is told about a number with too many digits. -/
def digitLimit : String := "Exceeds the limit (4300 digits) for integer string conversion"

def message : Error → String
  | fault f => f.text
  | badPattern pattern f => f.message pattern.toList
  | noPattern kind => "comment_pattern must be a regex, a string or None, got " ++ kind
  | patternNotText => "first argument must be string or compiled pattern"
  | patternNotKept kind => "unhashable type: '" ++ kind ++ "'"
  | incomparable left right =>
    "'>=' not supported between instances of '" ++ left ++ "' and '" ++ right ++ "'"
  | notIterable kind => "'" ++ kind ++ "' object is not iterable"
  | unknownOption operation name =>
    operation ++ "() got an unexpected keyword argument '" ++ name ++ "'"
  | repeatedOption operation name =>
    operation ++ "() got multiple values for argument '" ++ name ++ "'"
  | unknownLevel => "tuple.index(x): x not in tuple"
  | notNumber setting value => setting ++ " must be a number, got " ++ value.quoted
  | notChoice setting choices => setting ++ " must be one of " ++ choices
  | badPatternSetting setting pattern f =>
    setting ++ " is not a valid regex: " ++ f.message pattern.toList
  | zeroUnit => "integer division or modulo by zero"
  | depthTooLarge => "Python int too large to convert to C long"
  | thresholdTooLarge => "int too large to convert to float"
  | scoreTooLong => "[<class 'decimal.InvalidOperation'>]"
  | tooManyDigits => digitLimit ++ "; use sys.set_int_max_str_digits() to increase the limit"
  | tooNested => "maximum recursion depth exceeded while getting the repr of an object"
  | unopened f path => f.message path
  | unreadStream f => f.message

def ofWritingFault : Value.WritingFault → Error
  | .tooManyDigits => tooManyDigits
  | .tooNested => tooNested

/-- An error that tells a value, or the one of telling it if that can not be done. -/
def telling (fault? : Option Value.WritingFault) (e : Error) : Error :=
  fault?.elim e ofWritingFault

/-- An error about a setting with a value it can not have. -/
def invalidSetting (key : String) (value : Value) (reason : String)
    (room : Nat := Value.usualRoom) : Error :=
  telling (value.writingFault? room) (.fault (.invalidSetting key value reason))

end Error

/-- A computation that may end in an error. -/
abbrev Outcome := Except Error

end Nesting
