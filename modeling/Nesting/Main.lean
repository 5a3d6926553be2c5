import Nesting.Command.Run
import Std.Time.Format
import Std.Time.Zoned

/-!
# The program

The machine that the program runs on, as a host. No other program is run from here: a diff from a
repository has to be passed in as the input or as a file.
-/

namespace Nesting

/-- The number of a fault, which the system gives as it is or with its sign turned. -/
def faultCode (n : UInt32) : Nat :=
  if n < 0x80000000 then n.toNat else (0 - n).toNat

/-- The fault of opening a file as the system tells it. -/
def AccessFault.ofSystem : IO.Error → AccessFault
  | .noFileOrDirectory .. => .missing
  | .permissionDenied .. => .denied
  | .inappropriateType _ n reason | .invalidArgument _ n reason => .ofCode (faultCode n) reason
  | e => .other 0 (toString e)

/-- Do something with a file, or tell why it can not be opened. -/
def accessFile {α : Type} (act : IO α) : IO (Except AccessFault α) := do
  try
    return .ok (← act)
  catch e =>
    return .error (.ofSystem e)

/-- All octets that are left of a stream. -/
partial def readStream (stream : IO.FS.Stream) (done : ByteArray) : IO ByteArray := do
  let part ← stream.read 65536
  if part.isEmpty then return done else readStream stream (done ++ part)

/-- The variables that the program looks up, with their values. -/
def readEnvironment : IO (List (String × String)) :=
  (Setting.all.map Setting.variableName).filterMapM fun name => do
    return (← IO.getEnv name).map fun v => (name, v)

/-- The machine that the program runs on. -/
def systemHost : IO (Host IO) := do
  let home := Path.ofText ((← IO.getEnv "HOME").getD "/")
  let here := Path.ofText (← IO.currentDir).toString
  let known ← readEnvironment
  return {
    home, here
    environment := fun name => (known.find? (·.1 == name)).map (·.2)
    platform := {}
    console := ⟨80, .none⟩
    status := fun p => accessFile do discard (← IO.FS.realPath p.text).metadata
    read := fun p => accessFile do return (← IO.FS.readBinFile p.text).toList
    isDirectory := fun p => do
      match ← accessFile (IO.FS.realPath p.text) with
      | .ok q => q.isDir
      | .error _ => return false
    input := do
      match ← accessFile (readStream (← IO.getStdin) .empty) with
      | .ok bytes => return (decodeStrict bytes.toList).mapError .undecodable
      | .error f => return .error (.refused f)
    run := fun _ => return .notStarted .missing
    print := fun s => IO.print s
    printError := fun s => IO.eprint s
    append := fun p s => accessFile do
      let h ← IO.FS.Handle.mk p.text .append
      h.putStr s
    timeStamp := do return (← Std.Time.PlainDateTime.now).format "uuuu-MM-dd HH:mm:ss" }

end Nesting

open Nesting

def main (words : List String) : IO UInt32 := do
  match ← (← systemHost).runWords words with
  | .code n => return n.toUInt32
  | .uncaught e =>
    IO.eprintln e.message
    return 1
