import Nesting.Path
import Nesting.Value

/-!
# Faults

What can go wrong around an analysis, as it is told to whoever asked for it: a message and details
by name. The kinds of fault form a hierarchy, so that one can be handled as any of the kinds above
it.
-/

namespace Nesting

inductive FaultKind where
  | general
  | analysis
  | fileAccess
  | diffSource
  | configuration
  | invalidSetting
  deriving DecidableEq, Repr

namespace FaultKind

/-- A kind and all kinds above it, from itself upwards. -/
def ancestors : FaultKind → List FaultKind
  | general => [general]
  | analysis => [analysis, general]
  | configuration => [configuration, general]
  | fileAccess => [fileAccess, analysis, general]
  | diffSource => [diffSource, analysis, general]
  | invalidSetting => [invalidSetting, configuration, general]

end FaultKind

structure Fault where
  kind : FaultKind
  message : String
  details : List (String × String)
  deriving DecidableEq, Repr

namespace Fault

/-- The message, with the details in brackets behind it. -/
def text (f : Fault) : String :=
  if f.details = [] then f.message
  else f.message ++ " (" ++ ", ".intercalate (f.details.map fun (k, v) => k ++ "=" ++ v) ++ ")"

/-- A file could not be read. -/
def fileAccess (path : Path) (reason : String) : Fault where
  kind := .fileAccess
  message := "Cannot access file: " ++ path.text
  details := [("filepath", path.text), ("reason", reason)]

/-- No diff came from the command that was run for one. -/
def diffSource (command reason : String) : Fault where
  kind := .diffSource
  message := "Could not obtain diff from: " ++ command
  details := [("command", command), ("reason", reason)]

/-- A setting is something that it can not be, which is told as source text and as people read
it. -/
def invalid (key quoted display reason : String) : Fault where
  kind := .invalidSetting
  message := "Invalid configuration for " ++ key ++ ": " ++ quoted
  details := [("key", key), ("value", display), ("reason", reason)]

/-- A setting has a value that it can not have. -/
def invalidSetting (key : String) (value : Value) (reason : String) : Fault :=
  invalid key value.quoted value.display reason

/-- The settings could not be read. -/
def configuration (message : String) : Fault := ⟨.configuration, message, []⟩

end Fault

end Nesting
