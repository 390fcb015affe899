import PascalLint.Scope

/-! # Undeclared names

Five short names that beginners use without declaring them are reported wherever they occur as a
word, unless they have been declared.
-/

namespace PascalLint.Rule.UndeclaredNames

/-- The names that are looked for. -/
def suspicious : List (List Char) :=
  [['x'], ['y'], ['k'], ['i'], ['c', 'h']]

/-- Holds of a word that is to be reported. -/
def isUndeclared (scope : Scope) (word : Word) : Bool :=
  suspicious.contains word.text && !scope.declares word.text

/-- The diagnostics for a line. -/
def check (scope : Scope) (line : Line) : List Diagnostic :=
  (line.words.filter (isUndeclared scope)).map fun word =>
    line.diagnostic .undeclaredName word.start

end PascalLint.Rule.UndeclaredNames
