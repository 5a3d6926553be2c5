import Nesting.Pattern.Fault
import Nesting.Pattern.Tree
import Nesting.Text.Names

/-!
# Reading a pattern, token by token

A pattern is read in tokens: a character, or a backslash together with the character behind it.
`Reader` is what is left to read and what has been learnt so far (the groups and their widths, the
names, the flags for all of the pattern), and `Reading` is a computation that reads on or finds a
fault. A backslash with nothing behind it is a fault as soon as it is the next token.
-/

namespace Nesting

inductive Token where
  | plain (c : Char)
  | escape (c : Char)
  deriving DecidableEq, Repr

namespace Token

def text : Token → List Char
  | plain c => [c]
  | escape c => ['\\', c]

end Token

/-- The least and the most characters that a tree matches. Both stop growing at `Width.limit`. -/
structure Width where
  least : Nat
  most : Nat
  deriving DecidableEq, Repr

namespace Width

def limit : Nat := Nat.pow 2 64

/-- The least width that a look behind does not reach back to. -/
def lookLimit : Nat := Nat.pow 2 32

def ofNats (least most : Nat) : Width := ⟨min least limit, min most limit⟩

def zero : Width := ⟨0, 0⟩

def add (a b : Width) : Width := ofNats (a.least + b.least) (a.most + b.most)

/-- The width of one or the other. -/
def join (a b : Width) : Width := ⟨min a.least b.least, max a.most b.most⟩

/-- The width of a repetition. -/
def times (a : Width) (least : Nat) (most : Option Nat) : Width :=
  ofNats (a.least * least) <|
    match most with
    | some n => a.most * n
    | none => if a.most = 0 then 0 else limit

end Width

structure Reader where
  rest : List Char
  position : Nat
  flags : Flags := {}
  /-- Unicode classes were asked for, for all of the pattern. -/
  unicode : Bool := false
  /-- Repetitions were forbidden, for all of the pattern. -/
  template : Bool := false
  /-- The groups opened so far, each with its width once it is closed. -/
  groups : List (Option Width) := []
  names : List (String × Nat) := []
  /-- Within a look behind, the number of groups opened before it. -/
  behindFrom : Option Nat := none
  /-- The groups that conditions ask for, each with the position of its first condition. -/
  conditions : List (Nat × Nat) := []
  /-- The characters that can be written by a name. -/
  characters : CharacterNames := .plain

abbrev Reading := StateT Reader (Except PatternFault)

namespace Reader

/-- The next token. -/
def peek (r : Reader) : Option Token :=
  match r.rest with
  | [] => none
  | '\\' :: c :: _ => some (.escape c)
  | c :: _ => some (.plain c)

/-- The width of a closed group, if the group is closed. -/
def groupWidth? (r : Reader) (group : Nat) : Option Width :=
  if group = 0 then none else (r.groups[group - 1]?).join

end Reader

/-- Refuse a backslash that ends the pattern. -/
def checkEnd (rest : List Char) (position : Nat) : Except PatternFault Unit :=
  if rest = ['\\'] then throw ⟨.escapeAtEnd, some position⟩ else pure ()

namespace Reading

/-- Find a fault at a position. -/
def failAt {α : Type} (cause : PatternCause) (position : Nat) : Reading α :=
  throw ⟨cause, some position⟩

def fail {α : Type} (cause : PatternCause) (back : Nat) : Reading α := do
  failAt cause ((← get).position - back)

def failHere {α : Type} (cause : PatternCause) : Reading α :=
  fail cause 0

/-- The next token, left where it is. -/
def peek : Reading (Option Token) := do
  return (← get).peek

/-- Continue at a place of the pattern. -/
def goTo (rest : List Char) (position : Nat) : Reading Unit := do
  checkEnd rest position
  modify fun r => { r with rest := rest, position := position }

def next : Reading (Option Token) := do
  let r ← get
  match r.peek with
  | none => return none
  | some t =>
    goTo (r.rest.drop t.text.length) (r.position + t.text.length)
    return some t

/-- Read the next token if it is the given character. -/
def accept (c : Char) : Reading Bool := do
  if (← peek) = some (.plain c) then
    discard next
    return true
  else return false

/-- Read at most `limit` characters of a kind. -/
def takeWhile (p : Char → Bool) : (limit : Nat) → Reading (List Char)
  | 0 => return []
  | limit + 1 => do
    match ← peek with
    | some (.plain c) =>
      if p c then
        discard next
        return c :: (← takeWhile p limit)
      else return []
    | _ => return []

def digits : Reading (List Char) := do
  takeWhile Char.isDigit (← get).rest.length

/-- Read up to a terminator, and over it. The fuel bounds the number of tokens. -/
def untilChar (terminator : Char) (what : String) : (fuel : Nat) → (done : List Char) →
    Reading (List Char)
  | 0, done => return done
  | fuel + 1, done => do
    match ← next with
    | none =>
      if done = [] then failHere (.missing what)
      else fail (.unterminatedName terminator.toString) done.length
    | some t =>
      if t = .plain terminator then
        if done = [] then fail (.missing what) 1 else return done
      else untilChar terminator what fuel (done ++ t.text)

/-- Read a name up to its terminator. -/
def nameUntil (terminator : Char) (what : String) : Reading (List Char) := do
  untilChar terminator what ((← get).rest.length + 1) []

/-- Skip all tokens up to a character, and that character. Tells whether there was one. -/
def skipPast (c : Char) : (fuel : Nat) → Reading Bool
  | 0 => return false
  | fuel + 1 => do
    match ← next with
    | none => return false
    | some t => if t = .plain c then return true else skipPast c fuel

/-- Refuse a reference to a group that is open, or that was opened in the look behind in which it
is referred to. -/
def checkBehind (group : Nat) : Reading Unit := do
  let r ← get
  match r.behindFrom with
  | none => pure ()
  | some opened =>
    if (r.groupWidth? group).isNone then failHere .openGroup
    else if opened < group then failHere .groupInLookbehind

end Reading

end Nesting
