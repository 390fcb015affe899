import PascalLint.Diagnostic
import PascalLint.Keyword
import PascalLint.Text.Blank
import PascalLint.Text.Search
import PascalLint.Unicode.Lowercase

/-! # Lines

A source line as the rules see it: its number, its characters as they were written, and the same
line with comments and string contents masked. The two have equal length, so that a column of one
is a column of the other. Words are found in the masked line: a word is a run of identifier
characters of which the first may start an identifier.
-/

namespace PascalLint

/-! ## Words -/

/-- A word of a line: its first column and its characters. -/
structure Word where
  start : Nat
  characters : List Char
deriving DecidableEq, Repr

namespace Word

/-- The column behind the word. -/
def stop (word : Word) : Nat :=
  word.start + word.characters.length

/-- The word in lower case. -/
def text (word : Word) : List Char :=
  Unicode.lowercaseText word.characters

/-- The keyword that the word is. -/
def keyword? (word : Word) : Option Keyword :=
  Keyword.ofLower? word.text

/-- The words of a text that begins at a column. -/
def ofText (column : Nat) (text : List Char) : List Word :=
  match text with
  | [] => []
  | c :: rest =>
    if Identifier.mayContinue c then
      let characters := c :: Identifier.run rest
      let behind :=
        ofText (column + characters.length) (rest.drop (Identifier.run rest).length)
      if Identifier.mayStart c then ⟨column, characters⟩ :: behind else behind
    else ofText (column + 1) rest
termination_by text.length

end Word

/-! ## Lines -/

/-- A line with its number, its characters, and its characters after masking. -/
structure Line where
  number : Nat
  raw : List Char
  masked : List Char
deriving DecidableEq, Repr

namespace Line

/-- The words of the masked line. -/
def words (line : Line) : List Word :=
  Word.ofText 0 line.masked

/-- The position of a column. -/
def position (line : Line) (column : Nat) : Position :=
  ⟨line.number, column⟩

/-- The diagnostic for a defect at a column. -/
def diagnostic (line : Line) (defect : Defect) (column : Nat) : Diagnostic :=
  ⟨line.position column, defect⟩

/-- The word that the line begins with, apart from white space. -/
def leadingWord? (line : Line) : Option Word :=
  line.words.head?.filter (·.start == Text.indent line.masked)

/-- The keyword that the line begins with, apart from white space. -/
def leadingKeyword? (line : Line) : Option Keyword :=
  line.leadingWord?.bind (·.keyword?)

/-- The masked characters from one column up to another, which is not included. -/
def slice (line : Line) (start stop : Nat) : List Char :=
  (line.masked.take stop).drop start

/-- The column of the first occurrence of `pattern` in the masked line from a column on. -/
def find? (line : Line) (start : Nat) (pattern : List Char) : Option Nat :=
  (Text.find? pattern (line.masked.drop start)).map (· + start)

/-- The first column behind a keyword that leads the line, and the first column of the line if
    the keyword does not lead it. -/
def startBehind (line : Line) (keyword : Keyword) : Nat :=
  match line.leadingWord? with
  | some word => if word.keyword? = some keyword then word.stop else 0
  | none => 0

end Line

end PascalLint
