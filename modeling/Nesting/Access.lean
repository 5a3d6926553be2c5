import Nesting.Path
import Nesting.Text.Quoted
import Nesting.Text.Utf8

/-!
# Access to files and streams

Why a file can not be opened, or a stream of text not read to its end, and how that is told.
-/

namespace Nesting

inductive AccessFault where
  | missing
  | denied
  | notDirectory
  | isDirectory
  | nameTooLong
  | other (code : Nat) (reason : String)
  deriving DecidableEq, Repr

namespace AccessFault

def code : AccessFault → Nat
  | missing => 2
  | denied => 13
  | notDirectory => 20
  | isDirectory => 21
  | nameTooLong => 36
  | other n _ => n

def reason : AccessFault → String
  | missing => "No such file or directory"
  | denied => "Permission denied"
  | notDirectory => "Not a directory"
  | isDirectory => "Is a directory"
  | nameTooLong => "File name too long"
  | other _ s => s

def ofCode (code : Nat) (reason : String) : AccessFault :=
  ([missing, denied, notDirectory, isDirectory, nameTooLong].find? (·.code == code)).getD
    (other code reason)

/-- The codes of the faults that mean that there is nothing at a path: no such file, a file where a
directory is needed, nothing open, and links that lead back to themselves. -/
def absenceCodes : List Nat := [2, 20, 9, 40]

/-- Whether a fault means that there is nothing at a path. -/
def isAbsence (f : AccessFault) : Bool :=
  absenceCodes.contains f.code

/-- A fault by its number and its reason. -/
def text (f : AccessFault) : String :=
  "[Errno " ++ toString f.code ++ "] " ++ f.reason

def message (f : AccessFault) (p : Path) : String :=
  f.text ++ ": " ++ quoted p.text

end AccessFault

/-- Why a stream gives no text. -/
inductive StreamFault where
  /-- There is no stream. -/
  | closed
  /-- The system does not let it be read. -/
  | refused (f : AccessFault)
  /-- What comes out of it is no text. -/
  | undecodable (f : OctetFault)
  deriving DecidableEq, Repr

namespace StreamFault

def message : StreamFault → String
  | closed => "'NoneType' object has no attribute 'read'"
  | refused f => f.text
  | undecodable f => f.message

end StreamFault

end Nesting
