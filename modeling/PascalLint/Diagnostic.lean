import PascalLint.Defect
import PascalLint.Identifier
import PascalLint.Position

/-! # Diagnostics

A defect at a place in the source. The message for an undeclared name quotes the name, which is
read off the source line at the diagnostic's column.
-/

namespace PascalLint

/-- A defect at a position. -/
structure Diagnostic where
  position : Position
  defect : Defect
deriving DecidableEq, Repr

namespace Diagnostic

/-- The identifier characters that begin at the diagnostic's column of the line it is on. -/
def name (diagnostic : Diagnostic) (line : List Char) : List Char :=
  Identifier.run (line.drop diagnostic.position.column)

/-- The message for a diagnostic on the line `line`. -/
def message (diagnostic : Diagnostic) (line : List Char) : String :=
  match diagnostic.defect, diagnostic.name line with
  | .undeclaredName, c :: rest => "Unknown identifier `" ++ String.ofList (c :: rest) ++ "`."
  | defect, _ => defect.description

/-- The written form of a diagnostic whose line is not at hand. -/
def render (diagnostic : Diagnostic) : String :=
  diagnostic.position.render ++ ": error " ++ toString diagnostic.defect.number ++ ": "
    ++ diagnostic.defect.description

end Diagnostic

end PascalLint
