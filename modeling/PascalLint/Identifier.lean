import PascalLint.Unicode.Alphabetic
import PascalLint.Unicode.Numeric

/-! # The characters of identifiers

An identifier is a letter or an underscore, followed by letters, digits and underscores. Letters
and digits are those of every script.
-/

namespace PascalLint.Identifier

open PascalLint.Unicode (isAlphabetic isNumeric)

/-- Holds if `c` may be the first character of an identifier. -/
def mayStart (c : Char) : Bool :=
  isAlphabetic c || c == '_'

/-- Holds if `c` may be a later character of an identifier. -/
def mayContinue (c : Char) : Bool :=
  isAlphabetic c || isNumeric c || c == '_'

theorem mayContinue_of_mayStart {c : Char} (start : mayStart c = true) :
    mayContinue c = true := by
  simp only [mayStart, mayContinue, Bool.or_eq_true] at *
  rcases start with letter | underscore
  · exact .inl (.inl letter)
  · exact .inr underscore

/-- The longest run of identifier characters at the front of a text. -/
def run (text : List Char) : List Char :=
  text.takeWhile mayContinue

end PascalLint.Identifier
