/-!
# Names of characters

A character can be written by its name, in any case. All names together are a table of their own,
which is not part of this library: `CharacterNames` is such a table, and `plain` the one for the
characters that stand for themselves in a program text.
-/

namespace Nesting

/-- The code points for the names of characters. -/
abbrev CharacterNames := String → Option Nat

namespace CharacterNames

/-- Names of characters that follow each other, with the code point of the first. -/
def runs : List (Nat × List String) :=
  [(0x20, ["SPACE", "EXCLAMATION MARK", "QUOTATION MARK", "NUMBER SIGN", "DOLLAR SIGN",
      "PERCENT SIGN", "AMPERSAND", "APOSTROPHE", "LEFT PARENTHESIS", "RIGHT PARENTHESIS",
      "ASTERISK", "PLUS SIGN", "COMMA", "HYPHEN-MINUS", "FULL STOP", "SOLIDUS", "DIGIT ZERO",
      "DIGIT ONE", "DIGIT TWO", "DIGIT THREE", "DIGIT FOUR", "DIGIT FIVE", "DIGIT SIX",
      "DIGIT SEVEN", "DIGIT EIGHT", "DIGIT NINE", "COLON", "SEMICOLON", "LESS-THAN SIGN",
      "EQUALS SIGN", "GREATER-THAN SIGN", "QUESTION MARK", "COMMERCIAL AT"]),
   (0x5b, ["LEFT SQUARE BRACKET", "REVERSE SOLIDUS", "RIGHT SQUARE BRACKET", "CIRCUMFLEX ACCENT",
      "LOW LINE", "GRAVE ACCENT"]),
   (0x7b, ["LEFT CURLY BRACKET", "VERTICAL LINE", "RIGHT CURLY BRACKET", "TILDE"])]

/-- The names of a letter, as a capital and as a small one. -/
def letter (n : Nat) : List (String × Nat) :=
  let capital := Char.ofNat (0x41 + n)
  [("LATIN CAPITAL LETTER " ++ capital.toString, 0x41 + n),
    ("LATIN SMALL LETTER " ++ capital.toString, 0x61 + n)]

/-- The names of the plain characters with their code points. -/
def plainEntries : List (String × Nat) :=
  (runs.flatMap fun (first, names) => names.zipIdx first) ++ (List.range 26).flatMap letter

/-- The names of the plain characters. -/
def plain : CharacterNames := fun name =>
  (plainEntries.find? (·.1 == name.map Char.toUpper)).map (·.2)

end CharacterNames

end Nesting
