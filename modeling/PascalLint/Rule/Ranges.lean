import PascalLint.Line

/-! # Triple dots

Three dots in a row are reported where they begin; the search goes on behind them.
-/

namespace PascalLint.Rule.Ranges

/-- The columns of triple dots in a text that begins at a column. -/
def columns (column : Nat) : List Char → List Nat
  | [] => []
  | '.' :: '.' :: '.' :: rest => column :: columns (column + 3) rest
  | _ :: rest => columns (column + 1) rest

/-- The diagnostics for a line. -/
def check (line : Line) : List Diagnostic :=
  (columns 0 line.masked).map (line.diagnostic .tripleDot)

end PascalLint.Rule.Ranges
