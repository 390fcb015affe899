/-! # Layout

Numbers set flush right in a column, and runs of a repeated character.
-/

namespace PascalLint.Text

/-- The character `c`, written `count` times. -/
def repeated (count : Nat) (c : Char) : String :=
  String.ofList (List.replicate count c)

/-- The number `n`, with spaces before it up to `width` characters. -/
def rightAligned (width n : Nat) : String :=
  let digits := toString n
  repeated (width - digits.length) ' ' ++ digits

end PascalLint.Text
