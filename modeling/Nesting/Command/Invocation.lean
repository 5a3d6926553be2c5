import Nesting.Command.Git
import Nesting.Command.Options
import Nesting.Decimal.Reading
import Nesting.Settings

/-!
# Command lines

A command line has options for all commands, the name of a command, and the options and arguments
of that command. The two parts are read one after the other: the first decides what is logged while
the second is read. Whoever asks for help or for the version gets it before anything else is looked
at.
-/

namespace Nesting

/-! ## Before the command -/

inductive GlobalOption where
  | debug
  | quiet
  | logFile
  | version
  | help
  deriving DecidableEq, Repr

namespace GlobalOption

def forms : List (OptionForm GlobalOption) :=
  [⟨debug, ["--debug"], [], false⟩, ⟨quiet, ["--quiet"], ['q'], false⟩,
   ⟨logFile, ["--log-file"], [], true⟩, ⟨version, ["--version"], [], false⟩,
   ⟨help, ["--help"], [], false⟩]

end GlobalOption

inductive CommandName where
  | file
  | diff
  deriving DecidableEq, Repr

namespace CommandName

def ofName? : String → Option CommandName
  | "file" => some file
  | "diff" => some diff
  | _ => none

end CommandName

/-- What the first part of a command line asks for. -/
inductive Opening where
  | version
  | help
  | command (setup : LogSetup) (name : CommandName) (rest : List String)
  deriving DecidableEq, Repr

namespace Opening

def ofWords (words : List String) : Except UsageFault Opening := do
  if words = [] then throw .noCommand
  let g ← OptionForm.readWords GlobalOption.forms false words
  match g.options.find? fun o => o.1 = .version ∨ o.1 = .help with
  | some (.version, _) => return version
  | some _ => return help
  | none =>
    match g.arguments with
    | [] => throw .noCommand
    | name :: rest =>
      match CommandName.ofName? name with
      | none => throw (.unknownCommand name)
      | some c =>
        return command (.of (g.has .debug) (g.has .quiet) (g.last? .logFile)) c rest

end Opening

/-! ## Behind the command -/

inductive CommandOption where
  | verbose
  | lines
  | medium
  | high
  | commentPattern
  | noCommentFilter
  | failOn
  | config
  | json
  | git
  | staged
  | path
  | changes
  | help
  deriving DecidableEq, Repr

namespace CommandOption

def commonForms : List (OptionForm CommandOption) :=
  [⟨verbose, ["--verbose"], ['v'], false⟩, ⟨lines, ["--lines"], [], false⟩,
   ⟨medium, ["--medium"], [], true⟩, ⟨high, ["--high"], [], true⟩,
   ⟨commentPattern, ["--comment-pattern"], [], true⟩,
   ⟨noCommentFilter, ["--no-comment-filter"], [], false⟩, ⟨failOn, ["--fail-on"], [], true⟩,
   ⟨config, ["--config"], ['c'], true⟩, ⟨json, ["--json"], [], false⟩,
   ⟨help, ["--help"], [], false⟩]

def diffForms : List (OptionForm CommandOption) :=
  [⟨git, ["--git"], [], true⟩, ⟨staged, ["--staged"], [], false⟩,
   ⟨path, ["--path"], ['C'], true⟩, ⟨changes, ["--include"], ['i'], true⟩]

def forms : CommandName → List (OptionForm CommandOption)
  | .file => commonForms
  | .diff => commonForms ++ diffForms

end CommandOption

/-- What is analysed: files one by one, a diff from a file or the input, or a diff from a
repository. A source is the path of a file, or a dash for the input. -/
inductive Subject where
  | files (sources : List String)
  | diff (source : String)
  | git (d : GitDiff)
  deriving DecidableEq, Repr

/-- The source that stands for the input. -/
def inputSource : String := "-"

/-- A command with all that it was given. -/
structure Invocation where
  subject : Subject
  settingsFile : Option Path
  overrides : Entries
  json : Bool
  /-- A directory that has to exist. -/
  directory : Option String

namespace Invocation

/-- The number that was given for an option. -/
def numberOption (g : GivenWords CommandOption) (k : CommandOption) :
    Except UsageFault (Option Value) :=
  match g.last? k with
  | none => return none
  | some s =>
    match readFloat? s with
    | some x => return some (.float x)
    | none => throw (.badNumber s)

/-- The settings that options override. The flags come last. -/
def overridesOf (g : GivenWords CommandOption) : Except UsageFault Entries := do
  let medium ← numberOption g .medium
  let high ← numberOption g .high
  let text (k : CommandOption) : Option Value := (g.last? k).map .text
  let flag (k : CommandOption) (b : Bool) : Option Value := if g.has k then some (.bool b) else none
  let given : List (Setting × Option Value) :=
    [(.medium, medium), (.high, high), (.commentPattern, text .commentPattern),
     (.changes, text .changes), (.failOn, text .failOn),
     (.filterComments, flag .noCommentFilter false), (.verbose, flag .verbose true),
     (.lines, flag .lines true)]
  return given.filterMap fun (s, v?) => v?.map fun v => (s.name, v)

/-- What the options and arguments of a command say is to be analysed. -/
def subjectOf (name : CommandName) (g : GivenWords CommandOption) : Except UsageFault Subject :=
  match name, g.arguments with
  | .file, [] => throw .missingArgument
  | .file, sources => return .files sources
  | .diff, _ :: extra :: _ => throw (.extraArgument extra)
  | .diff, sources =>
    if (g.last? .git).isSome ∨ g.has .staged then
      return .git ⟨(g.last? .path).map Path.ofText, g.has .staged, g.last? .git⟩
    else return .diff (sources.headD inputSource)

/-- Read the second part of a command line, which may be a call for help. -/
def ofWords (name : CommandName) (words : List String) :
    Except UsageFault (Option Invocation) := do
  let g ← OptionForm.readWords (CommandOption.forms name) true words
  if g.has .help then return none
  let overrides ← overridesOf g
  let subject ← subjectOf name g
  return some {
    subject, overrides
    settingsFile := (g.last? .config).map Path.ofText
    json := g.has .json
    directory := g.last? .path }

end Invocation

end Nesting
