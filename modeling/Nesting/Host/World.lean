import Nesting.Host

/-!
# Made-up machines

A host as a value: a tree of files, an environment, an input that is read once, and what came of
the other program, with a transcript of all that a run printed, of the files that it looked up to
read them and of the commands that it ran. It is what a run can be watched on.
-/

namespace Nesting

/-- What a path can lead to. -/
inductive FileNode where
  | directory
  | file (bytes : List UInt8)
  /-- A file that can not be opened, and why. -/
  | closed (code : Nat) (reason : String)
  /-- What can not even be looked at, and why. -/
  | barred (code : Nat) (reason : String)
  deriving DecidableEq, Repr

structure World where
  /-- What there is, by its names from the root. The directories that a path leads through are
  there without being listed. -/
  nodes : List (List String × FileNode)
  home : List String
  here : List String
  environment : List (String × String)
  input : Except StreamFault (List Char)
  /-- What comes of running a command. -/
  process : ProcessResult
  timeStamp : String
  printed : String
  errors : String
  commands : List (List String)
  reads : List Path := []
  platform : Platform := {}
  console : Console := ⟨10000, .none⟩

namespace World

/-- The longest name that a file can have, in octets. -/
def maxNameSize : Nat := 255

/-- What there is at some names from the root. A later entry replaces an earlier one. -/
def node? (w : World) (names : List String) : Option FileNode :=
  match w.nodes.findRev? (·.1 == names) with
  | some (_, n) => some n
  | none =>
    if names = [] ∨ w.nodes.any fun n => names.isPrefixOf n.1 then some .directory else none

/-- Follow names from a place. Names below a file lead nowhere, and the place above the root is the
root. -/
def follow (w : World) (place : List String) : List String → Except AccessFault (List String)
  | [] => .ok place
  | name :: rest =>
    match w.node? place with
    | none => .error .missing
    | some (.file _) | some (.closed ..) => .error .notDirectory
    | some (.barred code reason) => .error (.other code reason)
    | some .directory =>
      if maxNameSize < name.utf8ByteSize then .error .nameTooLong
      else if name = ".." then follow w place.dropLast rest
      else follow w (place ++ [name]) rest

/-- The names from the root that a path leads to. -/
def locate (w : World) (p : Path) : Except AccessFault (List String) :=
  w.follow (if p.isAbsolute then [] else w.here) p.names

/-- Look for what a path leads to. -/
def status (w : World) (p : Path) : Except AccessFault Unit := do
  match w.node? (← w.locate p) with
  | none => throw .missing
  | some (.barred code reason) => throw (.other code reason)
  | some .directory | some (.file _) | some (.closed ..) => return

def read (w : World) (p : Path) : Except AccessFault (List UInt8) := do
  match w.node? (← w.locate p) with
  | none => throw .missing
  | some .directory => throw .isDirectory
  | some (.file bytes) => return bytes
  | some (.closed code reason) | some (.barred code reason) => throw (.other code reason)

def isDirectory (w : World) (p : Path) : Bool :=
  match w.locate p with
  | .ok names => w.node? names == some .directory
  | .error _ => false

/-- The world with a text written at the end of a file. -/
def append (w : World) (p : Path) (s : String) : Except AccessFault World := do
  let names ← w.locate p
  match w.node? names.dropLast with
  | some .directory => pure ()
  | some (.file _) | some (.closed ..) => throw .notDirectory
  | some (.barred code reason) => throw (.other code reason)
  | none => throw .missing
  match w.node? names with
  | some .directory => throw .isDirectory
  | some (.file bytes) =>
    return { w with
      nodes := w.nodes.filter (·.1 != names) ++ [(names, .file (bytes ++ s.toUTF8.toList))] }
  | some (.closed code reason) | some (.barred code reason) => throw (.other code reason)
  | none => return { w with nodes := w.nodes ++ [(names, .file s.toUTF8.toList)] }

/-- The host that a made-up machine is. -/
def host (w : World) : Host (StateM World) where
  home := ⟨"/", w.home⟩
  here := ⟨"/", w.here⟩
  environment name := (w.environment.find? (·.1 == name)).map (·.2)
  platform := w.platform
  console := w.console
  status p := do return (← get).status p
  read p := modifyGet fun w => (w.read p, { w with reads := w.reads ++ [p] })
  isDirectory p := do return (← get).isDirectory p
  input := modifyGet fun w => (w.input, { w with input := w.input.map fun _ => [] })
  run words := modifyGet fun w => (w.process, { w with commands := w.commands ++ [words] })
  print s := modify fun w => { w with printed := w.printed ++ s }
  printError s := modify fun w => { w with errors := w.errors ++ s }
  append p s := do
    match (← get).append p s with
    | .ok w =>
      set w
      return .ok ()
    | .error f => return .error f
  timeStamp := do return (← get).timeStamp

end World

end Nesting
