import Nesting.Access
import Nesting.Log
import Nesting.Report.Console
import Nesting.Settings

/-!
# Hosts

What a program needs of the machine that it runs on. A host is a record of effects, so that the
same program can be run on a real machine and on one that is made up.
-/

namespace Nesting

/-- What came of running another program. -/
inductive ProcessResult where
  /-- The program can not be started, and why. -/
  | notStarted (f : AccessFault)
  | timedOut
  /-- The program ended, but what it wrote is no text. -/
  | undecodable (f : OctetFault)
  | finished (output errors : String) (code : Int)
  deriving DecidableEq, Repr

structure Host (m : Type → Type) where
  /-- The directory of the user. -/
  home : Path
  /-- The directory that paths are relative to. -/
  here : Path
  /-- The value of a variable. -/
  environment : String → Option String
  /-- What the settings need of the machine. -/
  platform : Platform
  /-- The terminal that reports and errors are shown on. -/
  console : Console
  /-- Look for what a path leads to. -/
  status : Path → m (Except AccessFault Unit)
  /-- The octets of a file. -/
  read : Path → m (Except AccessFault (List UInt8))
  /-- Whether a path leads to a directory. -/
  isDirectory : Path → m Bool
  /-- What is left of the input. -/
  input : m (Except StreamFault (List Char))
  /-- Run another program. -/
  run : List String → m ProcessResult
  print : String → m Unit
  printError : String → m Unit
  /-- Write at the end of a file, which is made if there is none. -/
  append : Path → String → m (Except AccessFault Unit)
  /-- The date and time of day, to the second. -/
  timeStamp : m String

namespace Host

variable {m : Type → Type} [Monad m]

/-- Open the file of a setup, if it has one. The fault is about the path from the root. -/
def openLog (h : Host m) (setup : LogSetup) : m (Except (AccessFault × Path) Unit) := do
  match setup.file? with
  | none => return .ok ()
  | some name =>
    let p := (h.here.join (.ofText name)).normal
    match ← h.append p "" with
    | .ok () => return .ok ()
    | .error f => return .error (f, p)

/-- Log a record: show it, and write it to the file if there is one. -/
def log (h : Host m) (setup : LogSetup) (r : LogRecord) : m Unit := do
  if setup.shows r then
    h.printError (r.text ++ "\n")
    match setup.file? with
    | none => pure ()
    | some name =>
      let stamp ← h.timeStamp
      discard (h.append (h.here.join (.ofText name)).normal (stamp ++ " - " ++ r.text ++ "\n"))

end Host

end Nesting
