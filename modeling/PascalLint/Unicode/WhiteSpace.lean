import PascalLint.Unicode.Table

/-! # The property White_Space

The characters that separate words: the space and the five control characters from tab to
carriage return, next line, and the spaces and separators of other scripts. The zero width space
is not among them.
-/

namespace PascalLint.Unicode

/-- The code points with the property White_Space. -/
def whiteSpaceRanges : List CodeRange := [
  ⟨0x9, 0xD⟩, ⟨0x20, 0x20⟩, ⟨0x85, 0x85⟩, ⟨0xA0, 0xA0⟩, ⟨0x1680, 0x1680⟩, ⟨0x2000, 0x200A⟩,
  ⟨0x2028, 0x2029⟩, ⟨0x202F, 0x202F⟩, ⟨0x205F, 0x205F⟩, ⟨0x3000, 0x3000⟩]

/-- Holds if `c` has the property White_Space. -/
def isWhiteSpace (c : Char) : Bool :=
  inTable whiteSpaceRanges c

end PascalLint.Unicode
