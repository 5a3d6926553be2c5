import Nesting.Command.Run
import Nesting.Proofs.Host.Logging

/-!
# Sources one after another

A run reads its sources and analyses them until the first that can not be read. `unread?` says why a
source can not be read, `Gives` what text it gives otherwise, and `Analyses` what comes of analysing
sources that all give a text: a report for each of them, in their order, or the error of the first
analysis that has one.

Every part of a run keeps what `Keeps` says. One step of it reads a source (`run_sourceText`), and
logs and labels its analysis (`run_labelled`); `run_fileReport` is both. The whole run is an
induction on the sources (`run_fileReports`), and a diff is a run of a single step (`run_reports`).
-/

namespace Nesting

namespace World

variable {w w' : World} {setup : LogSetup} {s : Settings}

/-! ## What sources give -/

/-- The name that a source is told by, and why it can not be read, if it can not. -/
def unread? (w : World) (source : String) : Option (String × Error) :=
  if source = inputSource then
    match w.input with
    | .ok _ => none
    | .error f => some (sourceLabel source, .unreadStream f)
  else
    match w.read (.ofText source) with
    | .ok _ => none
    | .error f =>
      some ((Path.ofText source).text, .fault (.fileAccess (.ofText source) f.reason))

/-- The text that a source gives, with what there is of the input before and after. A file gives
what is in it, and what was logged to it if it is the log. -/
inductive Gives (w : World) (setup : LogSetup) :
    (input : Except StreamFault (List Char)) → (source text : String) →
      (input' : Except StreamFault (List Char)) → Prop
  | input {whole rest : List Char} (hwhole : w.input = .ok whole) :
      Gives w setup (.ok rest) inputSource (String.ofList (plainLineEnds rest)) (.ok [])
  | file {input : Except StreamFault (List Char)} {source : String} {bytes logged : List UInt8}
      (hsource : source ≠ inputSource) (hread : w.read (.ofText source) = .ok bytes)
      (hlogged : logged ≠ [] →
        ∃ names, w.logPlace? setup = some names ∧ w.locate (.ofText source) = .ok names) :
      Gives w setup input source
        (String.ofList (plainLineEnds (decodeLossy (bytes ++ logged)))) input

/-- The source of a diff that is read when it is named by a text. No name stands for the input. -/
def diffSource (source : String) : String :=
  if source = "" then inputSource else source

/-- Why there are no texts to analyse, if there are none, with the name that the source is told by:
it is the first file that can not be read, the diff, or the command that is run for one. -/
def refusal? (w : World) : Subject → Option (String × Error)
  | .files sources => sources.findSome? w.unread?
  | .diff source => w.unread? (diffSource source)
  | .git d =>
    match d.ofResult w.process with
    | .ok _ => none
    | .error e => some (d.command, e)

/-- A command gives a diff when it is there, ends in time and ends well with a text. -/
theorem refusal?_git_eq_none_iff {d : GitDiff} :
    w.refusal? (.git d) = none ↔ ∃ output errors, w.process = .finished output errors 0 := by
  unfold refusal? GitDiff.ofResult
  cases w.process with
  | notStarted | timedOut | undecodable => simp
  | finished output errors code =>
      by_cases hcode : code = 0 <;> simp [hcode]

end World

end Nesting
