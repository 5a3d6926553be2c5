import Nesting.Toml.Scalar

/-!
# Settings files

A document is a sequence of statements: a value under a dotted name, the header of a table, or the
header of one more table of a list. `TomlState` is what has been read: the entries, and the marks on
names that say what later statements may not do with them. `parseToml` reads a whole document.
-/

namespace Nesting

/-! ## Entries below entries -/

/-- Change the entries of the table that a path leads to. Tables that are missing are made; with
`lists` the path leads through the last table of a list. There is no such table if the path leads
to another value. -/
def Entries.changeAt (lists : Bool) (f : Entries → Option Entries) :
    KeyPath → Entries → Option Entries
  | [], es => f es
  | k :: ks, es =>
    match es.get? k with
    | none => (changeAt lists f ks []).map fun t => es.put k (.table t)
    | some (.table t) => (changeAt lists f ks t).map fun t => es.put k (.table t)
    | some (.list vs) =>
      match if lists then vs.getLast? else none with
      | some (.table t) =>
        (changeAt lists f ks t).map fun t => es.put k (.list (vs.dropLast ++ [.table t]))
      | _ => none
    | some _ => none

/-- Give a value under a name that has none yet. -/
def Entries.putNew (k : String) (v : Value) (es : Entries) : Option Entries :=
  if (es.get? k).isSome then none else some (es.put k v)

/-- Add an empty table to the list under a name. -/
def Entries.appendTable (k : String) (es : Entries) : Option Entries :=
  match es.get? k with
  | none => some (es.put k (.list [.table []]))
  | some (.list vs) => some (es.put k (.list (vs ++ [.table []])))
  | some _ => none

/-! ## Marks -/

/-- The marks on names. A frozen name is that of a list or table written out as a value, and all
names below it are frozen too. An explicit name had a header, or its table was made by a dotted
name; the latter count from the next header on. -/
structure TomlMarks where
  frozen : List KeyPath := []
  explicit : List KeyPath := []
  pending : List KeyPath := []
  deriving DecidableEq, Repr

namespace TomlMarks

def isFrozen (m : TomlMarks) (key : KeyPath) : Bool :=
  m.frozen.any (·.isPrefixOf key)

def isExplicit (m : TomlMarks) (key : KeyPath) : Bool :=
  m.explicit.contains key

/-- Let the pending names count. -/
def settle (m : TomlMarks) : TomlMarks :=
  { m with explicit := m.explicit ++ m.pending, pending := [] }

/-- Take the marks off a name and all names below it. -/
def clear (m : TomlMarks) (key : KeyPath) : TomlMarks :=
  { m with
    frozen := m.frozen.filter fun k => !key.isPrefixOf k
    explicit := m.explicit.filter fun k => !key.isPrefixOf k }

def freeze (m : TomlMarks) (key : KeyPath) : TomlMarks :=
  { m with frozen := key :: m.frozen }

def declare (m : TomlMarks) (key : KeyPath) : TomlMarks :=
  { m with explicit := key :: m.explicit }

end TomlMarks

/-- Whether a value holds others. -/
def Value.isNest : Value → Bool
  | .list _ | .table _ => true
  | _ => false

/-! ## Values -/

namespace TomlReading

def isBareKey (c : Char) : Bool :=
  c.isAlphanum || c == '-' || c == '_'

def keyPart : TomlReading String := do
  match ← peek with
  | some '\'' => lineText '\''
  | some '"' => lineText '"'
  | some c => if isBareKey c then return String.ofList (← takeWhile isBareKey) else fail .invalidKey
  | none => fail .invalidKey

/-- Read a dotted name and the blanks behind it. The fuel bounds the number of parts. -/
def keyParts : (fuel : Nat) → TomlReading KeyPath
  | 0 => return []
  | fuel + 1 => do
    let k ← keyPart
    skipSpaces
    if ← accept ['.'] then
      skipSpaces
      return k :: (← keyParts fuel)
    else return [k]

def key : TomlReading KeyPath := do
  keyParts ((← get).length + 1)

def keyAndEquals : TomlReading KeyPath := do
  let k ← key
  if !(← accept ['=']) then fail .expectedEquals
  skipSpaces
  return k

/-- Skip blanks, line ends and comments. The fuel bounds the number of comments. -/
def skipFiller : (fuel : Nat) → TomlReading Unit
  | 0 => return
  | fuel + 1 => do
    discard (takeWhile isSpaceOrNewline)
    if (← peek) = some '#' then
      skipComment
      skipFiller fuel

def skipAllFiller : TomlReading Unit := do
  skipFiller ((← get).length + 1)

/-- Give a value in a table that is written out, which has no such name yet. -/
def putInline (m : TomlMarks) (es : Entries) (key : KeyPath) (v : Value) : TomlReading Entries := do
  if m.isFrozen key then fail (.immutable key)
  let name := key.getLast?.getD ""
  match es.changeAt false some key.dropLast with
  | none => fail .overwritten
  | some _ =>
    match es.changeAt false (Entries.putNew name v) key.dropLast with
    | none => fail (.duplicateKey name)
    | some es => return es

mutual

/-- Read a value. The fuel bounds how deep values hold each other, and how many there are. -/
def value : (fuel : Nat) → TomlReading Value
  | 0 => fail .invalidValue
  | fuel + 1 => do
    let rest ← get
    match rest with
    | '"' :: '"' :: '"' :: _ => return .text (← blockText '"')
    | '"' :: _ => return .text (← lineText '"')
    | '\'' :: '\'' :: '\'' :: _ => return .text (← blockText '\'')
    | '\'' :: _ => return .text (← lineText '\'')
    | 't' :: 'r' :: 'u' :: 'e' :: rest =>
      set rest
      return .bool true
    | 'f' :: 'a' :: 'l' :: 's' :: 'e' :: rest =>
      set rest
      return .bool false
    | '[' :: rest =>
      set rest
      skipAllFiller
      if ← accept [']'] then return .list [] else return .list (← items fuel)
    | c :: rest =>
      if c = '\x7b' then
        set rest
        skipSpaces
        if ← accept ['\x7d'] then return .table []
        else return .table (← inlineEntries fuel {} [])
      else plainValue
    | [] => fail .invalidValue

def items : (fuel : Nat) → TomlReading (List Value)
  | 0 => fail .unclosedArray
  | fuel + 1 => do
    let v ← value fuel
    skipAllFiller
    if ← accept [']'] then return [v]
    if !(← accept [',']) then fail .unclosedArray
    skipAllFiller
    if ← accept [']'] then return [v]
    return v :: (← items fuel)

/-- Read the entries of a table that is written out, and the brace that closes it. -/
def inlineEntries : (fuel : Nat) → (m : TomlMarks) → (done : Entries) → TomlReading Entries
  | 0, _, _ => fail .unclosedTable
  | fuel + 1, m, done => do
    let key ← keyAndEquals
    let v ← value fuel
    let es ← putInline m done key v
    skipSpaces
    if ← accept ['\x7d'] then return es
    if !(← accept [',']) then fail .unclosedTable
    skipSpaces
    inlineEntries fuel (if v.isNest then m.freeze key else m) es

end

end TomlReading

/-! ## Statements -/

/-- What has been read of a document: its entries, the marks on their names, and the name of the
table that values are given in. -/
structure TomlState where
  entries : Entries := []
  marks : TomlMarks := {}
  header : KeyPath := []

namespace TomlState

open TomlReading

/-- The paths to the tables that a dotted name leads through, below a header. -/
def between (header key : KeyPath) : List KeyPath :=
  (List.range (key.length - 1)).map fun i => header ++ key.take (i + 1)

def keyValue (s : TomlState) : TomlReading TomlState := do
  let key ← keyAndEquals
  let v ← value (2 * (← get).length + 2)
  let inner := between s.header key
  match inner.find? s.marks.isExplicit with
  | some k => fail (.redefined k)
  | none => pure ()
  let parent := s.header ++ key.dropLast
  if s.marks.isFrozen parent then fail (.immutable parent)
  match s.entries.changeAt true (Entries.putNew (key.getLast?.getD "") v) parent with
  | none => fail .overwritten
  | some es =>
    let marks := { s.marks with pending := s.marks.pending ++ inner }
    return { s with
      entries := es
      marks := if v.isNest then marks.freeze (s.header ++ key) else marks }

/-- Read the header of a table behind its bracket. -/
def tableHeader (s : TomlState) : TomlReading TomlState := do
  skipSpaces
  let key ← key
  if s.marks.isExplicit key || s.marks.isFrozen key then fail (.declaredTwice key)
  match s.entries.changeAt true some key with
  | none => fail .overwritten
  | some es =>
    if !(← accept [']']) then fail .expectedBracket
    return ⟨es, s.marks.declare key, key⟩

/-- Read the header of one more table of a list behind its brackets. -/
def listHeader (s : TomlState) : TomlReading TomlState := do
  skipSpaces
  let key ← key
  if s.marks.isFrozen key then fail (.immutable key)
  match s.entries.changeAt true (Entries.appendTable (key.getLast?.getD "")) key.dropLast with
  | none => fail .overwritten
  | some es =>
    if !(← accept [']', ']']) then fail .expectedBrackets
    return ⟨es, (s.marks.clear key).declare key, key⟩

/-- Read a statement that starts with the given character. -/
def statement (s : TomlState) (c : Char) : TomlReading TomlState := do
  if isBareKey c || c == '"' || c == '\'' then s.keyValue
  else if c = '[' then
    let s := { s with marks := s.marks.settle }
    if ← accept ['[', '['] then s.listHeader
    else
      skip 1
      s.tableHeader
  else if c = '#' then return s
  else fail .invalidStatement

/-- Read all statements. The fuel bounds the number of lines. -/
def statements : (fuel : Nat) → TomlState → TomlReading TomlState
  | 0, s => return s
  | fuel + 1, s => do
    skipSpaces
    match ← peek with
    | none => return s
    | some '\n' =>
      skip 1
      statements fuel s
    | some c =>
      let s ← s.statement c
      skipSpaces
      skipComment
      match ← peek with
      | none => return s
      | some '\n' =>
        skip 1
        statements fuel s
      | some _ => fail .expectedEnd

end TomlState

/-- The characters of a document, with line feeds for its line ends. -/
def tomlCharacters : List Char → List Char
  | '\r' :: '\n' :: rest => '\n' :: tomlCharacters rest
  | c :: rest => c :: tomlCharacters rest
  | [] => []

def parseToml (text : List Char) : Except TomlFault Entries := do
  let document := tomlCharacters text
  let (s, _) ← (TomlState.statements (document.length + 1) {}).run document
  return s.entries

end Nesting
