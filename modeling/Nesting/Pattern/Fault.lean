import Nesting.Text.Quoted
import Nesting.Decimal.Layout

/-!
# Faults of patterns

What can be wrong with a pattern, where it is wrong, and how that is told. Three faults are of
another rank than the rest: repeating too often, a repeat count with too many digits to be read, and
asking for ASCII and Unicode classes at once are refused before the pattern is looked at as such.
-/

namespace Nesting

inductive PatternCause where
  | escapeAtEnd
  | badEscape (escape : String)
  | incompleteEscape (escape : String)
  | octalTooLarge (escape : String)
  | missing (what : String)
  | unterminatedName (terminator : String)
  | unknownCharacterName (name : String)
  | openGroup
  | groupInLookbehind
  | unknownGroup (n : Nat)
  | unterminatedSet
  | badRange (low high : String)
  | crossedRepeat
  | nothingToRepeat
  | multipleRepeat
  | endOfPattern
  | unknownExtension (what : String)
  | unknownGroupName (name : String)
  | badGroupName (name : String)
  | badGroupNumber
  | unterminatedComment
  | unterminatedGroup
  | tooManyBranches
  | lateFlags
  | groupNameTaken (name : String) (group earlier : Nat)
  | localeFlag
  | clashingFlags
  | unknownFlag
  | globalFlagOn
  | globalFlagOff
  | classFlagOff
  | flagOnAndOff
  | unbalanced
  | variableLookbehind
  | deepLookbehind
  | repeatTooLarge
  | repeatTooLong (digits : Nat)
  | asciiAndUnicode
  | repeatInTemplate (kind : String)
  deriving DecidableEq, Repr

namespace PatternCause

def text : PatternCause → String
  | escapeAtEnd => "bad escape (end of pattern)"
  | badEscape e => "bad escape " ++ e
  | incompleteEscape e => "incomplete escape " ++ e
  | octalTooLarge e => "octal escape value " ++ e ++ " outside of range 0-0o377"
  | missing what => "missing " ++ what
  | unterminatedName t => "missing " ++ t ++ ", unterminated name"
  | unknownCharacterName n => "undefined character name " ++ quoted n
  | openGroup => "cannot refer to an open group"
  | groupInLookbehind => "cannot refer to group defined in the same lookbehind subpattern"
  | unknownGroup n => "invalid group reference " ++ intText n
  | unterminatedSet => "unterminated character set"
  | badRange low high => "bad character range " ++ low ++ "-" ++ high
  | crossedRepeat => "min repeat greater than max repeat"
  | nothingToRepeat => "nothing to repeat"
  | multipleRepeat => "multiple repeat"
  | endOfPattern => "unexpected end of pattern"
  | unknownExtension what => "unknown extension ?" ++ what
  | unknownGroupName n => "unknown group name " ++ quoted n
  | badGroupName n => "bad character in group name " ++ quoted n
  | badGroupNumber => "bad group number"
  | unterminatedComment => "missing ), unterminated comment"
  | unterminatedGroup => "missing ), unterminated subpattern"
  | tooManyBranches => "conditional backref with more than two branches"
  | lateFlags => "global flags not at the start of the expression"
  | groupNameTaken n g e =>
    "redefinition of group name " ++ quoted n ++ " as group " ++ intText g ++ "; was group "
      ++ intText e
  | localeFlag => "bad inline flags: cannot use 'L' flag with a str pattern"
  | clashingFlags => "bad inline flags: flags 'a', 'u' and 'L' are incompatible"
  | unknownFlag => "unknown flag"
  | globalFlagOn => "bad inline flags: cannot turn on global flag"
  | globalFlagOff => "bad inline flags: cannot turn off global flag"
  | classFlagOff => "bad inline flags: cannot turn off flags 'a', 'u' and 'L'"
  | flagOnAndOff => "bad inline flags: flag turned on and off"
  | unbalanced => "unbalanced parenthesis"
  | variableLookbehind => "look-behind requires fixed-width pattern"
  | deepLookbehind => "looks too much behind"
  | repeatTooLarge => "the repetition number is too large"
  | repeatTooLong n =>
    "Exceeds the limit (4300 digits) for integer string conversion: value has " ++ intText n
      ++ " digits; use sys.set_int_max_str_digits() to increase the limit"
  | asciiAndUnicode => "ASCII and UNICODE flags are incompatible"
  | repeatInTemplate kind => "internal: unsupported template operator " ++ kind

end PatternCause

/-- What kind of fault a cause is: one of the pattern itself, or of a value or a size in it. -/
inductive CauseRank where
  | pattern
  | value
  | size
  deriving DecidableEq, Repr

def PatternCause.rank : PatternCause → CauseRank
  | .repeatTooLarge => .size
  | .repeatTooLong _ | .asciiAndUnicode => .value
  | _ => .pattern

/-- A fault, and the position in the pattern it is told at, if at any. -/
structure PatternFault where
  cause : PatternCause
  position : Option Nat
  deriving DecidableEq, Repr

namespace PatternFault

/-- The message for a fault of a pattern. A pattern of several lines has the position told by line
and column as well. -/
def message (pattern : List Char) (f : PatternFault) : String :=
  match f.position with
  | none => f.cause.text
  | some n =>
    let before := pattern.take n
    let column := (before.reverse.takeWhile (· != '\n')).length + 1
    f.cause.text ++ " at position " ++ intText n ++
      if pattern.contains '\n' then
        " (line " ++ intText (before.count '\n' + 1) ++ ", column " ++ intText column ++ ")"
      else ""

end PatternFault

end Nesting
