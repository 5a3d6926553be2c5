/-!
# Paths

A path is a root and names below it. Slashes in a row count as one, apart from two at the start,
which are a root of their own; names that stand for the place itself are left out, and a path
without a root and without names is the place where the program runs. Names that lead upwards are
kept: where they lead is known only in a file system.
-/

namespace Nesting

structure Path where
  /-- What the path starts with: nothing, one slash or two. -/
  root : String
  names : List String
  deriving DecidableEq, Repr

namespace Path

def rootOf : List Char → String
  | '/' :: '/' :: '/' :: _ => "/"
  | '/' :: '/' :: _ => "//"
  | '/' :: _ => "/"
  | _ => ""

/-- The names of a path: what stands between its slashes. -/
def namesOf (s : List Char) : List String :=
  let parts := s.splitBy fun a b => a != '/' && b != '/'
  (parts.filter fun p => p ≠ ['/'] ∧ p ≠ ['.']).map String.ofList

def ofText (s : String) : Path :=
  ⟨rootOf s.toList, namesOf s.toList⟩

def isAbsolute (p : Path) : Bool := !p.root.isEmpty

/-- A path as it is written. -/
def text (p : Path) : String :=
  let s := p.root ++ "/".intercalate p.names
  if s.isEmpty then "." else s

/-- The path that another one leads to from here. -/
def join (here p : Path) : Path :=
  if p.isAbsolute then p else ⟨here.root, here.names ++ p.names⟩

/-- The names that are left when each name that leads upwards takes away the one before it. -/
def foldUpwards (names : List String) : List String :=
  names.foldl (fun done n => if n = ".." then done.dropLast else done ++ [n]) []

/-- A path from a root without names that lead upwards, as far as its text tells. -/
def normal (p : Path) : Path :=
  if p.isAbsolute then ⟨p.root, foldUpwards p.names⟩ else p

end Path

end Nesting
