import Nesting.Decimal.Layout
import Nesting.Text.Quoted

/-!
# Faults of settings files

What can be wrong with a settings file, and how it is told where.
-/

namespace Nesting

/-- A name in parts, as dotted keys and headers have it. -/
abbrev KeyPath := List String

namespace KeyPath

/-- A name in parts as messages show it. -/
def text : KeyPath → String
  | [k] => "(" ++ quoted k ++ ",)"
  | ks => "(" ++ ", ".intercalate (ks.map quoted) ++ ")"

end KeyPath

inductive TomlCause where
  | invalidStatement
  | expectedEnd
  | expectedEquals
  | invalidKey
  | expectedBracket
  | expectedBrackets
  | declaredTwice (key : KeyPath)
  | immutable (key : KeyPath)
  | redefined (key : KeyPath)
  | overwritten
  | duplicateKey (name : String)
  | unclosedArray
  | unclosedTable
  | unescaped
  | badHex
  | noCharacter
  | expected (what : String)
  | invalidCharacter (c : Char)
  | illegalCharacter (c : Char)
  | unterminated
  | badDate
  | invalidValue
  | tooManyDigits (count : Nat)
  deriving DecidableEq, Repr

namespace TomlCause

def text : TomlCause → String
  | invalidStatement => "Invalid statement"
  | expectedEnd => "Expected newline or end of document after a statement"
  | expectedEquals => "Expected '=' after a key in a key/value pair"
  | invalidKey => "Invalid initial character for a key part"
  | expectedBracket => "Expected ']' at the end of a table declaration"
  | expectedBrackets => "Expected ']]' at the end of an array declaration"
  | declaredTwice key => "Cannot declare " ++ key.text ++ " twice"
  | immutable key => "Cannot mutate immutable namespace " ++ key.text
  | redefined key => "Cannot redefine namespace " ++ key.text
  | overwritten => "Cannot overwrite a value"
  | duplicateKey name => "Duplicate inline table key " ++ quoted name
  | unclosedArray => "Unclosed array"
  | unclosedTable => "Unclosed inline table"
  | unescaped => "Unescaped '\\' in a string"
  | badHex => "Invalid hex value"
  | noCharacter => "Escaped character is not a Unicode scalar value"
  | expected what => "Expected " ++ quoted what
  | invalidCharacter c => "Found invalid character " ++ quoted c.toString
  | illegalCharacter c => "Illegal character " ++ quoted c.toString
  | unterminated => "Unterminated string"
  | badDate => "Invalid date or datetime"
  | invalidValue => "Invalid value"
  | tooManyDigits n =>
    "Exceeds the limit (4300 digits) for integer string conversion: value has " ++ intText n
      ++ " digits; use sys.set_int_max_str_digits() to increase the limit"

end TomlCause

/-- A fault, and how many characters were left where it was found, if it has a place. -/
structure TomlFault where
  cause : TomlCause
  left : Option Nat
  deriving DecidableEq, Repr

namespace TomlFault

/-- A place of a document by line and column. -/
def placeText (document : List Char) (left : Nat) : String :=
  if left = 0 then "end of document"
  else
    let before := document.take (document.length - left)
    "line " ++ intText (before.count '\n' + 1) ++ ", column "
      ++ intText ((before.reverse.takeWhile (· != '\n')).length + 1)

def message (document : List Char) (f : TomlFault) : String :=
  match f.left with
  | none => f.cause.text
  | some left => f.cause.text ++ " (at " ++ placeText document left ++ ")"

end TomlFault

end Nesting
