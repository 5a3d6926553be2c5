import Nesting.Error
import Nesting.Host
import Nesting.Text.Blank

/-!
# Diffs from a version control system

A diff can be the output of the command that compares two states of a repository: of the working
directory or of what is staged, with a reference or without.
-/

namespace Nesting

structure GitDiff where
  /-- The directory that the command is run for. -/
  repository : Option Path
  staged : Bool
  reference : Option String
  deriving DecidableEq, Repr

namespace GitDiff

/-- The reference, unless it is empty. -/
def reference? (d : GitDiff) : Option String :=
  d.reference.filter (!·.isEmpty)

def words (d : GitDiff) : List String :=
  ["git"] ++ (d.repository.elim [] fun p => ["-C", p.text]) ++ ["diff"]
    ++ (if d.staged then ["--cached"] else []) ++ d.reference?.toList

def command (d : GitDiff) : String :=
  " ".intercalate d.words

/-- What a report of the diff is labelled with. -/
def label (d : GitDiff) : String :=
  trimText ("git diff " ++ (if d.staged then "--cached " else "") ++ d.reference?.getD "")

def logRecord (d : GitDiff) : LogRecord :=
  .debug "cli._common" ("Running " ++ d.command)

/-- The diff that came of running the command. What is told as a fault of the diff is that there is
no such program, that it takes too long, and that it ends with an error. -/
def ofResult (d : GitDiff) : ProcessResult → Outcome String
  | .notStarted f =>
    throw (if f.code = AccessFault.missing.code then
      .fault (.diffSource d.command "git executable not found")
    else .unopened f ⟨"", ["git"]⟩)
  | .timedOut => throw (.fault (.diffSource d.command "timed out"))
  | .undecodable f => throw (.unreadStream (.undecodable f))
  | .finished output errors code =>
    if code = 0 then return output
    else
      let told := trimText errors
      throw (.fault (.diffSource d.command
        (if told.isEmpty then "exit code " ++ intText code else told)))

def run {m : Type → Type} [Monad m] (h : Host m) (setup : LogSetup) (d : GitDiff) :
    m (Outcome String) := do
  h.log setup d.logRecord
  return d.ofResult (← h.run d.words)

end GitDiff

end Nesting
