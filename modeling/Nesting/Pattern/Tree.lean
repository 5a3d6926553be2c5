import Nesting.Text.Blank
import Nesting.Text.Letters
import Nesting.Text.Case

/-!
# Patterns as trees

A pattern is a tree of character sets, anchors, repetitions, groups and looks to either side.
Characters are kept as code points, since a pattern may name code points that no text holds.
-/

namespace Nesting

/-- The switches a pattern can turn on, for all of it or within a group. -/
structure Flags where
  ignoreCase : Bool := false
  multiline : Bool := false
  dotAll : Bool := false
  verbose : Bool := false
  ascii : Bool := false
  /-- Repetitions are forbidden, which is settled when a pattern is read. -/
  template : Bool := false
  deriving DecidableEq, Repr

inductive Category where
  | digit
  | blank
  | word
  deriving DecidableEq, Repr

/-- One member of a character set. -/
inductive SetItem where
  | code (n : Nat)
  | range (low high : Nat)
  | category (c : Category) (negated : Bool)
  deriving DecidableEq, Repr

/-- A set of characters: any character (line feeds only when asked for), or the members listed, or
all but those. -/
inductive CharSet where
  | any
  | items (negated : Bool) (items : List SetItem)
  deriving DecidableEq, Repr

/-- A place in the text, which takes up no character. -/
inductive Anchor where
  | lineStart
  | lineEnd
  | textStart
  | textEnd
  | wordBoundary
  | noWordBoundary
  deriving DecidableEq, Repr

/-- How a repetition chooses its number of rounds: as many as possible, as few as possible, or as
many as possible without ever giving one back. -/
inductive Greed where
  | greedy
  | lazy
  | possessive
  deriving DecidableEq, Repr

inductive Tree where
  | empty
  | one (set : CharSet)
  | seq (a b : Tree)
  | alt (a b : Tree)
  | loop (greed : Greed) (least : Nat) (most : Option Nat) (body : Tree)
  | capture (group : Nat) (body : Tree)
  | scoped (on off : Flags) (unicode : Bool) (body : Tree)
  | backref (group : Nat)
  | ahead (positive : Bool) (body : Tree)
  | behind (positive : Bool) (width : Nat) (body : Tree)
  | atomic (body : Tree)
  | anchor (a : Anchor)
  | choice (group : Nat) (yes no : Tree)
  deriving DecidableEq, Repr

namespace Flags

def none : Flags := {}

/-- The flags inside a group that turns some on and some off. Asking for Unicode classes turns the
ASCII ones off, and the other way round. -/
def within (f on off : Flags) (unicode : Bool) : Flags where
  ignoreCase := (f.ignoreCase || on.ignoreCase) && !off.ignoreCase
  multiline := (f.multiline || on.multiline) && !off.multiline
  dotAll := (f.dotAll || on.dotAll) && !off.dotAll
  verbose := (f.verbose || on.verbose) && !off.verbose
  ascii := (f.ascii && !unicode) || on.ascii

end Flags

namespace Category

/-- Whether a character is of a category, among all characters or among the ASCII ones. -/
def holds (ascii : Bool) (c : Char) : Category → Bool
  | digit => if ascii then c.isDigit else isDecimalDigit c
  | blank => if ascii then c == ' ' || (0x09 ≤ c.toNat && c.toNat ≤ 0x0d) else isBlank c
  | word => if ascii then c.isAlphanum || c == '_' else isWordChar c

end Category

/-- Lower case among all letters or among the ASCII ones. -/
def foldCode (ascii : Bool) (n : Nat) : Nat :=
  if ascii then if 65 ≤ n && n ≤ 90 then n + 32 else n else lowerCode n

/-- Whether a code point stands for another one when case is ignored. -/
def sameCode (ascii : Bool) (a b : Nat) : Bool :=
  if ascii then foldCode true a == foldCode true b else sameLetter a b

namespace SetItem

/-- Whether an item holds a character when case matters. -/
def holds (ascii : Bool) (c : Char) : SetItem → Bool
  | code n => c.toNat == n
  | range low high => low ≤ c.toNat && c.toNat ≤ high
  | category k negated => k.holds ascii c != negated

/-- The code points that count as the same letter as a lower-case one. -/
def spellings (ascii : Bool) (n : Nat) : List Nat :=
  if ascii then n :: (if 97 ≤ n && n ≤ 122 then [n - 32] else [])
  else (caseClass n).flatMap upperCodes

/-- Whether an item holds a character when case is ignored. -/
def holdsAnyCase (ascii : Bool) (c : Char) : SetItem → Bool
  | code n => sameCode ascii n c.toNat
  | range low high => (spellings ascii (foldCode ascii c.toNat)).any fun n => low ≤ n && n ≤ high
  | category k negated => k.holds ascii (Char.ofNat (foldCode ascii c.toNat)) != negated

end SetItem

namespace CharSet

/-- The set of one code point. -/
def code (n : Nat) : CharSet := items false [.code n]

/-- Whether a set holds a character under the flags in force. -/
def holds (f : Flags) (c : Char) : CharSet → Bool
  | any => f.dotAll || c != '\n'
  | items negated is =>
    (if f.ignoreCase then is.any (·.holdsAnyCase f.ascii c) else is.any (·.holds f.ascii c))
      != negated

end CharSet

end Nesting
