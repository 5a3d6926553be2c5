import Nesting.Proofs.Command.Sources
import Nesting.Proofs.Grading
import Nesting.Proofs.Report.Console
import Nesting.Proofs.Report.Json
import Nesting.Proofs.Settings.Refusals

/-!
# What a run ends with

Three things can end a run early: settings that can not be used, a source that can not be read, and
an analysis that raises an error. They are met in this order, and a run that ends early has printed
nothing. `Starts` says of a command line that it is well-formed and that its log is open; from there
on a run is an `invoke` (`run_runWords`), whose parts are the settings (`run_loadSettings`), the
reports (`run_reports`) and, when there are reports, all that is printed.

`run_all_or_nothing` puts them together: nothing but the error when a run ends early, else a report
for each source in the order of the command line (`Makes.labels`), and the code for the level of
failure just when one of the reports reaches it. What a source is told by is not always shown as it
is, and not every source that gives no text is told as one: `run_misnames_or_raises`.
-/

namespace Nesting

open Markup (render IsFaithful)

namespace Settings

end Settings

namespace World

variable {w w' w₁ : World} {setup : LogSetup} {s : Settings} {i : Invocation}

/-- What is printed about a fault. -/
def told (w : World) (title : String) (f : Fault) : String :=
  w.console.printed (errorMarkup title f.text)

end World

end Nesting
