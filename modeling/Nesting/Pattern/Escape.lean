import Nesting.Decimal.Reading
import Nesting.Pattern.Reader

/-!
# Escapes and character sets

What a backslash stands for in front of a character, outside and inside of a character set, and the
character sets themselves.
-/

namespace Nesting

namespace Reading

/-- The control characters that have a letter of their own. -/
def controlCode? : Char → Option Nat
  | 'a' => some 7
  | 'f' => some 12
  | 'n' => some 10
  | 'r' => some 13
  | 't' => some 9
  | 'v' => some 11
  | '\\' => some 92
  | _ => none

/-- The letters for the categories; a capital stands for all other characters. -/
def category? : Char → Option SetItem
  | 'd' => some (.category .digit false)
  | 'D' => some (.category .digit true)
  | 's' => some (.category .blank false)
  | 'S' => some (.category .blank true)
  | 'w' => some (.category .word false)
  | 'W' => some (.category .word true)
  | _ => none

/-- The letters for places. -/
def anchor? : Char → Option Anchor
  | 'A' => some .textStart
  | 'Z' => some .textEnd
  | 'b' => some .wordBoundary
  | 'B' => some .noWordBoundary
  | _ => none

def isHexDigit (c : Char) : Bool :=
  c.isDigit || ('a' ≤ c && c ≤ 'f') || ('A' ≤ c && c ≤ 'F')

def isOctalDigit (c : Char) : Bool :=
  '0' ≤ c && c ≤ '7'

/-- The value of one digit, in any base up to sixteen. -/
def digitCode (c : Char) : Nat :=
  if c.isDigit then c.toNat - 48 else c.toLower.toNat - 87

def codeOf (base : Nat) (ds : List Char) : Nat :=
  ds.foldl (fun n c => base * n + digitCode c) 0

/-- Read the digits of a character written by its code point in hexadecimal. -/
def hexCode (letter : Char) (width : Nat) : Reading Nat := do
  let ds ← takeWhile isHexDigit width
  let escape := '\\' :: letter :: ds
  if ds.length < width then fail (.incompleteEscape (String.ofList escape)) escape.length
  else
    let n := codeOf 16 ds
    if n ≤ 0x10ffff then return n
    else fail (.badEscape (String.ofList escape)) escape.length

/-- Read a character written by its name. -/
def namedCode : Reading Nat := do
  if ← accept '{' then
    let name ← nameUntil '}' "character name"
    match (← get).characters (String.ofList name) with
    | some n => return n
    | none => fail (.unknownCharacterName (String.ofList name)) (name.length + 4)
  else failHere (.missing "\x7b")

/-- Read what is left of an escape that stands for one character, where digits do not count. -/
def escapedCode (c : Char) : Reading Nat := do
  match c with
  | 'x' => hexCode c 2
  | 'u' => hexCode c 4
  | 'U' => hexCode c 8
  | 'N' => namedCode
  | _ =>
    if c.isAlpha || c.isDigit then fail (.badEscape (String.ofList ['\\', c])) 2
    else return c.toNat

/-- The value of an octal escape, which must be that of a byte. -/
def octalCode (ds : List Char) : Reading Nat := do
  let n := codeOf 8 ds
  if 255 < n then fail (.octalTooLarge (String.ofList ('\\' :: ds))) (ds.length + 1) else return n

/-- Read what is left of a reference to a group by its number, or of an octal escape of three
digits. -/
def reference (first : Char) : Reading Tree := do
  let more ← takeWhile Char.isDigit 1
  let ds := first :: more
  let third ← if more ≠ [] ∧ ds.all isOctalDigit then takeWhile isOctalDigit 1 else pure []
  if third ≠ [] then return .one (.code (← octalCode (ds ++ third)))
  else
    let group := codeOf 10 ds
    let r ← get
    if r.groups.length < group then fail (.unknownGroup group) ds.length
    else if (r.groupWidth? group).isNone then fail .openGroup (ds.length + 1)
    else
      checkBehind group
      return .backref group

/-- Read what is left of an escape outside of a set. -/
def escape (c : Char) : Reading Tree := do
  match anchor? c, category? c, controlCode? c with
  | some a, _, _ => return .anchor a
  | _, some item, _ => return .one (.items false [item])
  | _, _, some n => return .one (.code n)
  | _, _, _ =>
    if c = '0' then return .one (.code (codeOf 8 (c :: (← takeWhile isOctalDigit 2))))
    else if c.isDigit then reference c
    else return .one (.code (← escapedCode c))

def setEscape (c : Char) : Reading SetItem := do
  match category? c, controlCode? c with
  | some item, _ => return item
  | _, some n => return .code n
  | _, _ =>
    if c = 'b' then return .code 8
    else if isOctalDigit c then return .code (← octalCode (c :: (← takeWhile isOctalDigit 2)))
    else return .code (← escapedCode c)

def setMember : Token → Reading SetItem
  | .plain c => return .code c.toNat
  | .escape c => setEscape c

/-- The range between two members of a set, which must be characters in order. -/
def rangeOf? : SetItem → SetItem → Option SetItem
  | .code low, .code high => if low ≤ high then some (.range low high) else none
  | _, _ => none

/-- Read the members of a set that starts at `start`, and the bracket that closes it. The bracket
is a member when it comes first. -/
def setMembers (start : Nat) : (fuel : Nat) → (done : List SetItem) → Reading (List SetItem)
  | 0, done => return done
  | fuel + 1, done => do
    match ← next with
    | none => failAt .unterminatedSet start
    | some low =>
      if low = .plain ']' ∧ done ≠ [] then return done
      else
        let a ← setMember low
        if ← accept '-' then
          match ← next with
          | none => failAt .unterminatedSet start
          | some high =>
            if high = .plain ']' then return done ++ [a, .code 45]
            else
              let b ← setMember high
              match rangeOf? a b with
              | some item => setMembers start fuel (done ++ [item])
              | none =>
                fail (.badRange (String.ofList low.text) (String.ofList high.text))
                  (low.text.length + 1 + high.text.length)
        else setMembers start fuel (done ++ [a])

/-- Read what follows the opening bracket of a set. -/
def charSet : Reading Tree := do
  let start := (← get).position - 1
  let negated ← accept '^'
  let members ← setMembers start ((← get).rest.length + 1) []
  return .one (.items negated members)

end Reading

end Nesting
