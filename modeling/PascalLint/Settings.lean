import PascalLint.Checks
import PascalLint.Reserved

/-! # Settings

What a user may choose about a check: the dialect that the tokens are read in, and the line rules.
-/

namespace PascalLint

/-- Settings; those that are not chosen have the values given here. -/
structure Settings where
  dialect : Dialect := .extended
  checks : Checks := {}
deriving DecidableEq, Repr

end PascalLint
