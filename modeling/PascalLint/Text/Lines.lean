/-! # Lines

A text is cut into lines at each new-line character. A carriage return that comes right before a
new-line belongs to the line's terminator; any other carriage return is an ordinary character. A
terminator at the end of the text starts no further line.
-/

namespace PascalLint.Text

/-- The lines of a text, without their terminators. -/
def lines : List Char → List (List Char)
  | [] => []
  | '\r' :: '\n' :: rest => [] :: lines rest
  | '\n' :: rest => [] :: lines rest
  | c :: rest =>
    match lines rest with
    | [] => [[c]]
    | line :: below => (c :: line) :: below

@[simp]
theorem lines_newline (rest : List Char) : lines ('\n' :: rest) = [] :: lines rest := by
  simp [lines]

@[simp]
theorem lines_return_newline (rest : List Char) :
    lines ('\r' :: '\n' :: rest) = [] :: lines rest := by
  simp [lines]

end PascalLint.Text
