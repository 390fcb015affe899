import PascalLint.Proofs.ReportEvidence
import PascalLint.Proofs.RuleRuns

/-! # The report of undeclared names

Whether a name is reported depends on the lines up to the one that it is on: they say which part of the
program the line belongs to and which names have been declared. A context keeps as much of the history
as is needed (`Context.Remembers`) and every line adds to it what the line declares, so by induction
over the lines the report is the one that the history calls for.
-/

namespace PascalLint

namespace Context.Remembers

variable {context : Context} {above : List Line} (remembers : context.Remembers above)
include remembers

end Context.Remembers

/-! ## Reports -/

end PascalLint
