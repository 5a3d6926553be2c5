import Nesting.Command.Invocation
import Nesting.Report.Summary
import Nesting.Settings.Sources
import Nesting.Version

/-!
# Running commands

A run reads the settings, then its sources, and reports only when all of that went well: a run that
fails prints nothing but the error. What a run ends with says why: `3` for faults of the settings,
`2` for sources that can not be read and for command lines that make no sense, `1` when a report
reaches the level of failure, and `0` otherwise. Nobody expects an input or a diff that is no text.
-/

namespace Nesting

/-- How a run ends: with a code, or with an error that nobody expected. -/
inductive Exit where
  | code (n : Nat)
  | uncaught (e : Error)

namespace Exit

def success : Exit := code 0

/-- Some report reaches the level of failure. -/
def levelReached : Exit := code 1

/-- A source can not be read. -/
def inputError : Exit := code 2

/-- The command line makes no sense. -/
def usageError : Exit := code 2

/-- The settings can not be used. -/
def settingsError : Exit := code 3

/-- How a run ends that made some reports. -/
def ofReports (s : Settings) (rs : List LabelledReport) : Exit :=
  if rs.any fun r => s.fails r.report.level then levelReached else success

end Exit

/-- Why there are no reports: a source could not be read, or could not be analysed. -/
inductive NoReports where
  | unread (e : Error)
  | failed (e : Error)

/-- What a report of a source is labelled with. -/
def sourceLabel (source : String) : String :=
  if source = inputSource then "<stdin>" else source

/-- An error message as markup. -/
def errorMarkup (title message : String) : List Char :=
  styled "red" (title ++ ":").toList ++ ' ' :: escaped message

namespace Host

variable {m : Type → Type} [Monad m]

/-! ## Sources -/

/-- The text of the input, which has to be a text. -/
def inputText (h : Host m) : m (Outcome String) := do
  match ← h.input with
  | .ok cs => return .ok (String.ofList (plainLineEnds cs))
  | .error f => return .error (.unreadStream f)

/-- The text of a file. Octets that are no text are replaced. -/
def fileText (h : Host m) (p : Path) : m (Outcome String) := do
  match ← h.read p with
  | .ok bytes => return .ok (String.ofList (plainLineEnds (decodeLossy bytes)))
  | .error f => return .error (.fault (.fileAccess p f.reason))

def sourceText (h : Host m) (source : String) : m (Outcome String) :=
  if source = inputSource then h.inputText else h.fileText (.ofText source)

/-- The settings that are in a file, if there is one. -/
def settingsFile (h : Host m) (label : String) (p : Path) : m SettingsFile := do
  return ⟨label, p, ← h.status p, ← h.read p⟩

/-- Everything that settings can come from. -/
def settingsSources (h : Host m) (named : Option Path) (overrides : Entries) :
    m SettingsSources := do
  let global ← h.settingsFile "global config" (h.home.join (.ofText ".indent-complexity.toml"))
  let project ← h.settingsFile "project config" (h.here.join (.ofText "indent-complexity.toml"))
  let named ← match named with
    | none => pure none
    | some p => some <$> h.settingsFile "config file" p
  return { global, project, named, environment := h.environment, overrides, platform := h.platform }

def loadSettings (h : Host m) (named : Option Path) (overrides : Entries) :
    m (Outcome Settings) := do
  return (← h.settingsSources named overrides).load

/-! ## Reports -/

/-- Log an analysis and label its report. -/
def labelled (h : Host m) (setup : LogSetup) (label : String) (a : Outcome Analysis) :
    m (Except NoReports LabelledReport) := do
  match a with
  | .error e => return .error (.failed e)
  | .ok a =>
    a.logRecords.forM (h.log setup)
    return .ok ⟨label, a.report⟩

/-- Analyse a file. -/
def fileReport (h : Host m) (setup : LogSetup) (s : Settings) (source : String) :
    m (Except NoReports LabelledReport) := do
  match ← h.sourceText source with
  | .error e => return .error (.unread e)
  | .ok text =>
    let label := sourceLabel source
    h.log setup (.debug "cli.file" ("Analyzing " ++ label))
    h.labelled setup label (analyzeText text s.options)

/-- Analyse files one by one. The first without a report ends it. -/
def fileReports (h : Host m) (setup : LogSetup) (s : Settings) :
    (sources : List String) → m (Except NoReports (List LabelledReport))
  | [] => return .ok []
  | source :: rest => do
    match ← h.fileReport setup s source with
    | .error e => return .error e
    | .ok r =>
      match ← h.fileReports setup s rest with
      | .error e => return .error e
      | .ok rs => return .ok (r :: rs)

/-- The label and the text of a single diff. -/
def diffText (h : Host m) (setup : LogSetup) : Subject → m (String × Outcome String)
  | .git d => do return (d.label, ← d.run h setup)
  | .diff source => do
    let read := if source = "" then inputSource else source
    return (sourceLabel source, ← h.sourceText read)
  | .files _ => return ("", .ok "")

def reports (h : Host m) (setup : LogSetup) (s : Settings) (subject : Subject) :
    m (Except NoReports (List LabelledReport)) := do
  match subject with
  | .files sources => h.fileReports setup s sources
  | .diff _ | .git _ =>
    let (label, text) ← h.diffText setup subject
    match text with
    | .error e => return .error (.unread e)
    | .ok text =>
      return (← h.labelled setup label (analyzeDiff s.changes text s.options)).map ([·])

/-! ## Runs -/

/-- Show an error on the terminal. -/
def tell (h : Host m) (title : String) (f : Fault) : m Unit :=
  h.printError (h.console.printed (errorMarkup title f.text))

def invoke (h : Host m) (setup : LogSetup) (i : Invocation) : m Exit := do
  match ← h.loadSettings i.settingsFile i.overrides with
  | .error (.fault f) =>
    h.tell "Configuration error" f
    return .settingsError
  | .error e => return .uncaught e
  | .ok s =>
    match ← h.reports setup s i.subject with
    | .error (.unread (.fault f)) =>
      h.tell "Error" f
      return .inputError
    | .error (.unread e) | .error (.failed e) => return .uncaught e
    | .ok rs =>
      h.print (if i.json then reportsJson rs else reportsSummary h.console.pictures rs)
      return .ofReports s rs

/-- The directory that has to exist, if it does not. -/
def missingDirectory? (h : Host m) : Option String → m (Option String)
  | none => return none
  | some text => do
    let exists? ← if text = "" then pure false else h.isDirectory (.ofText text)
    return if exists? then none else some text

def refuse (h : Host m) (f : UsageFault) : m Exit := do
  h.printError ("Usage error: " ++ f.message ++ "\n")
  return .usageError

def runWords (h : Host m) (words : List String) : m Exit := do
  match Opening.ofWords words with
  | .error f => h.refuse f
  | .ok .help => return .success
  | .ok .version =>
    h.print (programName ++ " " ++ version ++ "\n")
    return .success
  | .ok (.command setup name rest) =>
    match ← h.openLog setup with
    | .error (f, p) => return .uncaught (.unopened f p)
    | .ok () =>
      match Invocation.ofWords name rest with
      | .error f => h.refuse f
      | .ok none => return .success
      | .ok (some i) =>
        match ← h.missingDirectory? i.directory with
        | some text => h.refuse (.noDirectory text)
        | none => h.invoke setup i

end Host

end Nesting
