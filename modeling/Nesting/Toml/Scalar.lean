import Nesting.Decimal.Reading
import Nesting.Toml.Fault
import Nesting.Value

/-!
# Texts, numbers and dates of settings files

The values that hold no others. A computation reads from the characters that are left, or finds a
fault at a place where some are left.
-/

namespace Nesting

abbrev TomlReading := StateT (List Char) (Except TomlFault)

namespace TomlReading

/-- Find a fault where the given characters are left. -/
def failAt {α : Type} (cause : TomlCause) (rest : List Char) : TomlReading α :=
  throw ⟨cause, some rest.length⟩

def fail {α : Type} (cause : TomlCause) : TomlReading α := do
  failAt cause (← get)

/-- The next character, left where it is. -/
def peek : TomlReading (Option Char) := do
  return (← get).head?

def skip (n : Nat) : TomlReading Unit :=
  modify (·.drop n)

/-- Read a text if it comes next. -/
def accept (s : List Char) : TomlReading Bool := do
  if s.isPrefixOf (← get) then
    skip s.length
    return true
  else return false

/-- Read all characters of a kind that come next. -/
def takeWhile (p : Char → Bool) : TomlReading (List Char) := do
  let rest ← get
  set (rest.dropWhile p)
  return rest.takeWhile p

def isSpace (c : Char) : Bool := c == ' ' || c == '\t'

def isSpaceOrNewline (c : Char) : Bool := isSpace c || c == '\n'

def skipSpaces : TomlReading Unit :=
  discard (takeWhile isSpace)

/-- Characters that stand in no text on one line, nor in a comment. -/
def isControl (c : Char) : Bool :=
  (c.toNat < 32 && c != '\t') || c.toNat == 127

/-- Characters that stand in no text of several lines. -/
def isControlInBlock (c : Char) : Bool :=
  isControl c && c != '\n'

/-! ## Texts -/

/-- The characters in front of a text, and those from it on. -/
def splitBefore (s : List Char) : List Char → Option (List Char × List Char)
  | [] => if s = [] then some ([], []) else none
  | c :: rest =>
    if s.isPrefixOf (c :: rest) then some ([], c :: rest)
    else (splitBefore s rest).map fun (a, b) => (c :: a, b)

/-- Refuse a character that must not stand in a run of characters with `rest` behind it. -/
def checkRun (refused : Char → Bool) (run rest : List Char) : TomlReading Unit := do
  match run.dropWhile fun c => !refused c with
  | [] => return
  | c :: more => failAt (.invalidCharacter c) (c :: more ++ rest)

/-- Read up to a text and over it. -/
def untilText (s : List Char) (refused : Char → Bool) : TomlReading (List Char) := do
  match splitBefore s (← get) with
  | none => failAt (.expected (String.ofList s)) []
  | some (run, rest) =>
    checkRun refused run rest
    set (rest.drop s.length)
    return run

def skipComment : TomlReading Unit := do
  if ← accept ['#'] then
    let run ← takeWhile (· != '\n')
    checkRun isControl run (← get)

/-- Read the code point of a character by its hexadecimal digits. -/
def hexCharacter (width : Nat) : TomlReading (List Char) := do
  let ds := (← get).take width
  if ds.length < width ∨ !ds.all fun c => c.isDigit || ('a' ≤ c.toLower && c.toLower ≤ 'f') then
    fail .badHex
  else
    skip width
    let n := ds.foldl (fun n c =>
      16 * n + if c.isDigit then c.toNat - 48 else c.toLower.toNat - 87) 0
    if n < 0xd800 ∨ (0xdfff < n ∧ n ≤ 0x10ffff) then return [Char.ofNat n] else fail .noCharacter

/-- Read the blanks that a backslash at the end of a line takes away with the line end. -/
def lineContinuation (c : Char) : TomlReading (List Char) := do
  if c != '\n' then
    skipSpaces
    match ← peek with
    | none => return []
    | some '\n' => skip 1
    | some _ => fail .unescaped
  discard (takeWhile isSpaceOrNewline)
  return []

/-- Read what is behind a backslash. -/
def escaped (block : Bool) : TomlReading (List Char) := do
  let c? ← peek
  skip 1
  match c? with
  | some 'b' => return ['\x08']
  | some 't' => return ['\t']
  | some 'n' => return ['\n']
  | some 'f' => return ['\x0c']
  | some 'r' => return ['\r']
  | some '"' => return ['"']
  | some '\\' => return ['\\']
  | some 'u' => hexCharacter 4
  | some 'U' => hexCharacter 8
  | some c => if block && isSpaceOrNewline c then lineContinuation c else fail .unescaped
  | none => fail .unescaped

/-- Read what is left of a text between double quotes. The fuel bounds the number of characters. -/
def basicText (block : Bool) : (fuel : Nat) → TomlReading (List Char)
  | 0 => fail .unterminated
  | fuel + 1 => do
    match ← peek with
    | none => fail .unterminated
    | some '"' =>
      if !block then
        skip 1
        return []
      else if ← accept ['"', '"', '"'] then return []
      else
        skip 1
        return '"' :: (← basicText block fuel)
    | some '\\' =>
      skip 1
      let cs ← escaped block
      return cs ++ (← basicText block fuel)
    | some c =>
      if (if block then isControlInBlock c else isControl c) then fail (.illegalCharacter c)
      skip 1
      return c :: (← basicText block fuel)

/-- Read up to two more quotes, which end a text of several lines without being its end. -/
def extraQuotes (quote : Char) : TomlReading (List Char) := do
  if ← accept [quote] then
    if ← accept [quote] then return [quote, quote] else return [quote]
  else return []

def lineText (quote : Char) : TomlReading String := do
  skip 1
  if quote = '"' then return String.ofList (← basicText false ((← get).length + 1))
  else return String.ofList (← untilText ['\''] isControl)

def blockText (quote : Char) : TomlReading String := do
  skip 3
  discard (accept ['\n'])
  let body ←
    if quote = '"' then basicText true ((← get).length + 1)
    else untilText ['\'', '\'', '\''] isControlInBlock
  return String.ofList (body ++ (← extraQuotes quote))

/-! ## Numbers -/

/-- The digits that come first, with single underscores between them, and what is left. -/
def digitRun (p : Char → Bool) : List Char → List Char × List Char
  | '_' :: c :: rest =>
    if p c then
      let (ds, rest) := digitRun p rest
      (c :: ds, rest)
    else ([], '_' :: c :: rest)
  | c :: rest =>
    if p c then
      let (ds, rest) := digitRun p rest
      (c :: ds, rest)
    else ([], c :: rest)
  | [] => ([], [])

/-- A run of digits that does not start with an underscore. -/
def digits? (p : Char → Bool) (cs : List Char) : Option (List Char × List Char) :=
  match cs with
  | c :: _ => if p c then some (digitRun p cs) else none
  | [] => none

/-- The base that the letter behind a zero stands for, and its digits. -/
def base? : Char → Option (Nat × (Char → Bool))
  | 'x' => some (16, fun c => c.isDigit || ('a' ≤ c.toLower && c.toLower ≤ 'f'))
  | 'b' => some (2, fun c => c == '0' || c == '1')
  | 'o' => some (8, fun c => '0' ≤ c && c ≤ '7')
  | _ => none

/-- A whole number in a base other than ten. -/
def based? : List Char → Option (Int × List Char)
  | '0' :: letter :: cs => do
    let (base, p) ← base? letter
    let (ds, rest) ← digits? p cs
    let n := ds.foldl (fun n c =>
      base * n + if c.isDigit then c.toNat - 48 else c.toLower.toNat - 87) 0
    return (Int.ofNat n, rest)
  | _ => none

/-- The digits of a whole number, which does not start with a zero unless it is one. -/
def wholeDigits? : List Char → Option (List Char × List Char)
  | '0' :: rest => some (['0'], rest)
  | cs => digits? Char.isDigit cs

/-- The fraction that follows, with its point. -/
def fractionPart : List Char → List Char × List Char
  | '.' :: rest =>
    match digits? Char.isDigit rest with
    | some (ds, rest) => ('.' :: ds, rest)
    | none => ([], '.' :: rest)
  | cs => ([], cs)

def exponentPart : List Char → List Char × List Char
  | c :: rest =>
    if c = 'e' ∨ c = 'E' then
      let (sign, rest') :=
        match rest with
        | '+' :: r => (['+'], r)
        | '-' :: r => (['-'], r)
        | r => ([], r)
      match digits? Char.isDigit rest' with
      | some (ds, rest'') => ('e' :: sign ++ ds, rest'')
      | none => ([], c :: rest)
    else ([], c :: rest)
  | [] => ([], [])

/-- A number in decimal: its value, and what is left. -/
def decimal? (cs : List Char) : Option (Except TomlCause Value × List Char) := do
  let (negative, unsigned) := takeSign cs
  let (whole, rest) ← wholeDigits? unsigned
  let (fraction, rest) := fractionPart rest
  let (exponent, rest) := exponentPart rest
  if fraction = [] ∧ exponent = [] then
    let n := Int.ofNat (digitsValue whole)
    let value : Except TomlCause Value :=
      if Value.maxDigits < whole.length then .error (.tooManyDigits whole.length)
      else .ok (.int (if negative then -n else n))
    return (value, rest)
  else
    let x ← numeral? negative (whole ++ fraction ++ exponent)
    return (.ok (.float x.toFloat), rest)

/-- The words that are doubles. -/
def specialFloat? (cs : List Char) : Option (Float × List Char) :=
  let (negative, unsigned) := takeSign cs
  match unsigned with
  | 'i' :: 'n' :: 'f' :: rest => some (if negative then -infinity else infinity, rest)
  | 'n' :: 'a' :: 'n' :: rest => some (notANumber, rest)
  | _ => none

/-! ## Dates and times -/

/-- A number of a fixed count of digits between two bounds. -/
def fixedDigits? (count low high : Nat) (cs : List Char) : Option (Nat × List Char) :=
  let ds := cs.take count
  let n := digitsValue ds
  if ds.length = count ∧ ds.all Char.isDigit ∧ low ≤ n ∧ n ≤ high then some (n, cs.drop count)
  else none

/-- A character that must come next. -/
def mark? (c : Char) : List Char → Option (List Char)
  | d :: rest => if c = d then some rest else none
  | [] => none

/-- The fraction of a second in microseconds. Digits beyond those are left out. -/
def micros : List Char → Nat × List Char
  | '.' :: rest =>
    let ds := rest.takeWhile Char.isDigit
    if ds = [] then (0, '.' :: rest)
    else
      let six := ds.take 6
      (digitsValue six * Nat.pow 10 (6 - six.length), rest.dropWhile Char.isDigit)
  | cs => (0, cs)

def timeOfDay? (cs : List Char) : Option (TimeOfDay × List Char) := do
  let (hour, cs) ← fixedDigits? 2 0 23 cs
  let (minute, cs) ← fixedDigits? 2 0 59 (← mark? ':' cs)
  let (second, cs) ← fixedDigits? 2 0 59 (← mark? ':' cs)
  let (micros, cs) := micros cs
  return (⟨hour, minute, second, micros⟩, cs)

/-- A date, whose day may be one that its month does not have. -/
def date? (cs : List Char) : Option (Date × List Char) := do
  let (year, cs) ← fixedDigits? 4 0 9999 cs
  let (month, cs) ← fixedDigits? 2 1 12 (← mark? '-' cs)
  let (day, cs) ← fixedDigits? 2 1 31 (← mark? '-' cs)
  return (⟨year, month, day⟩, cs)

/-- The offset from universal time in minutes. -/
def offset? (cs : List Char) : Option (Int × List Char) :=
  match cs with
  | 'Z' :: rest | 'z' :: rest => some (0, rest)
  | sign :: rest => do
    if sign ≠ '+' ∧ sign ≠ '-' then none
    let (hours, rest) ← fixedDigits? 2 0 23 rest
    let (minutes, rest) ← fixedDigits? 2 0 59 (← mark? ':' rest)
    let n := Int.ofNat (60 * hours + minutes)
    return (if sign = '-' then -n else n, rest)
  | [] => none

/-- The time of day behind a date, with the character between the two. -/
def timeAfterDate? : List Char → Option (TimeOfDay × List Char)
  | c :: rest => if c = 'T' ∨ c = 't' ∨ c = ' ' then timeOfDay? rest else none
  | [] => none

/-- A date with or without a time. -/
def dateValue? (cs : List Char) : Option (Except TomlCause Value × List Char) := do
  let (d, rest) ← date? cs
  let checked (v : Value) : Except TomlCause Value :=
    if d.isValid then .ok v else .error .badDate
  match timeAfterDate? rest with
  | none => return (checked (.date d), rest)
  | some (t, rest) =>
    match offset? rest with
    | none => return (checked (.moment d t none), rest)
    | some (o, rest) => return (checked (.moment d t (some o)), rest)

/-- A number, a date or a time that comes first, and what is left. Dates are tried first, since they
start like numbers. -/
def plainValue? (cs : List Char) : Option (Except TomlCause Value × List Char) :=
  (dateValue? cs).or <|
    ((timeOfDay? cs).map fun (t, rest) => (.ok (.time t), rest)).or <|
      ((based? cs).map fun (n, rest) => (.ok (.int n), rest)).or <|
        (decimal? cs).or <|
          (specialFloat? cs).map fun (x, rest) => (.ok (.float x), rest)

def plainValue : TomlReading Value := do
  let rest ← get
  match plainValue? rest with
  | none => fail .invalidValue
  | some (.ok v, rest) =>
    set rest
    return v
  | some (.error (.tooManyDigits n), _) => throw ⟨.tooManyDigits n, none⟩
  | some (.error cause, _) => fail cause

end TomlReading

end Nesting
