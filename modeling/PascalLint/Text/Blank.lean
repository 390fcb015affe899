import PascalLint.Unicode.WhiteSpace

/-! # White space around text

Trimming and the last word of a text. A text is a list of characters throughout, so that a
column is an index and a part of a line is a `take` of a `drop`.
-/

namespace PascalLint.Text

open PascalLint.Unicode (isWhiteSpace)

/-- Holds if the text is empty or white space only. -/
def isBlank (text : List Char) : Bool :=
  text.all isWhiteSpace

/-- The text without the white space at its front. -/
def trimStart (text : List Char) : List Char :=
  text.dropWhile isWhiteSpace

/-- The text without the white space at its end. -/
def trimEnd (text : List Char) : List Char :=
  (text.reverse.dropWhile isWhiteSpace).reverse

/-- The text without the white space at its front and at its end. -/
def trim (text : List Char) : List Char :=
  trimEnd (trimStart text)

/-- The number of white space characters at the front of the text. -/
def indent (text : List Char) : Nat :=
  (text.takeWhile isWhiteSpace).length

/-- The last of the words that white space separates, empty if the text is blank. -/
def lastWord (text : List Char) : List Char :=
  ((trimEnd text).reverse.takeWhile (!isWhiteSpace ·)).reverse

@[simp]
theorem isBlank_cons (c : Char) (text : List Char) :
    isBlank (c :: text) = (isWhiteSpace c && isBlank text) := rfl

/-- Trimming at the front removes as many characters as the text is indented by. -/
theorem trimStart_eq_drop (text : List Char) : trimStart text = text.drop (indent text) := by
  induction text with
  | nil => rfl
  | cons c text ih =>
    by_cases white : isWhiteSpace c
    · simpa [trimStart, indent, white] using ih
    · simp [trimStart, indent, white]

end PascalLint.Text
