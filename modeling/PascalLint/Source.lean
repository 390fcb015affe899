import PascalLint.Encoding.Decode
import PascalLint.Log.Message
import PascalLint.Text.Lines

/-! # Sources

The lines of a source, with the name of the file that they come from, if any, and the encoding
that the file was asked to be read in.
-/

namespace PascalLint

/-- A source. -/
structure Source where
  file : Option String
  encoding : Encoding
  lines : List (List Char)
deriving Repr

namespace Source

/-- The empty source. -/
def empty : Source := ⟨none, .utf8, []⟩

/-- The source with the given lines, which come from no file. -/
def ofLines (lines : List (List Char)) : Source :=
  ⟨none, .utf8, lines⟩

/-- The source with the given text. -/
def ofText (text : List Char) (file : Option String) (encoding : Encoding) : Source :=
  ⟨file, encoding, Text.lines text⟩

/-- The line with the given number, counted from 1. -/
def line? (source : Source) : Nat → Option (List Char)
  | 0 => none
  | n + 1 => source.lines[n]?

theorem line?_of_split (source : Source) {above below : List (List Char)} {line : List Char}
    (split : source.lines = above ++ line :: below) :
    source.line? (above.length + 1) = some line := by
  simp [line?, split]

theorem line?_below (source : Source) : source.line? (source.lines.length + 1) = none :=
  List.getElem?_eq_none (Nat.le_refl _)

/-- A source as it is read, with the messages of the reading. -/
structure Reading where
  source : Source
  messages : List Log.Message

/-- Reads the contents of a file, in the encoding that is asked for, or in the one that the
    contents suggest. -/
def read (codecs : Encoding.Codecs) (path : String) (encoding : Option Encoding)
    (bytes : List UInt8) : Reading :=
  let encoding := encoding.getD (codecs.guess bytes)
  let decoded := encoding.decode codecs bytes
  let messages :=
    if decoded.malformed then
      [⟨.debug, .source, path ++ ": replaced malformed " ++ encoding.name ++ " sequences"⟩]
    else []
  ⟨.ofText decoded.text (some path) encoding, messages⟩

end Source

end PascalLint
